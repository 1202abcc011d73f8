import Yeet.Catch.Routing

/-! The host the client talks to and its view of the tailnet: the preferred host as `init`
loads it and the `--host` flag and `prefs --save` change it, `getDockerHost`, which picks
the peer the preferred host names, and `runListHosts`, the `list-hosts` command. The prefs
file is read as the host it holds, and writing it is an outcome. The tailscale local
client's `Status` is a parameter: its peers come in the order `range st.Peer` visits them,
which Go randomises. The version column is what `ssh <host> version` prints, an outcome;
the header row and the tab padding are left out, and so is the JSON `prefs` prints. -/
namespace Yeet.Client
open Yeet.Routing

/-- `prefs`: the preferred host, and whether the `--host` flag changed it. -/
structure Prefs where
  changed : Bool
  host : String
  deriving DecidableEq, Repr

def defaultHost : String := "catch"

/-- `init` of the client: the host of the prefs file (`""` when it holds none or cannot be
read), then `CATCH_HOST` when set, then `catch`. -/
def initPrefs (fileHost catchHost : String) : Prefs :=
  let host := if catchHost ≠ "" then catchHost else fileHost
  ⟨false, if host = "" then defaultHost else host⟩

/-- `flagPref.Set` for the `--host` flag. -/
def Prefs.setHost (p : Prefs) (v : String) : Prefs := if p.host = v then p else ⟨true, v⟩

/-- A run of the `prefs` command: its result, the host it saved to the prefs file, and what
it printed to stderr. -/
structure PrefsRun where
  result : Except String Unit
  written : Option String
  stderr : List String

/-- The `prefs` command with `--save` or without; `save` is the outcome of `prefs.save`. -/
def prefsCmd (p : Prefs) (saveFlag : Bool) (save : Except String Unit) : PrefsRun :=
  if saveFlag then
    if !p.changed then ⟨.ok (), none, ["No changes to save"]⟩ else
    match save with
    | .error e => ⟨.error ("failed to save preferences: " ++ e), some p.host, []⟩
    | .ok () => ⟨.ok (), some p.host, ["Prefs saved"]⟩
  else if p.changed then ⟨.ok (), none, ["Use --save to save the prefs"]⟩
  else ⟨.ok (), none, []⟩

theorem setHostRun (p : Prefs) (flags : List String) :
    flags.foldl Prefs.setHost p = ⟨p.changed || flags.any (· != p.host), flags.getLastD p.host⟩ := by
  induction flags generalizing p with
  | nil => simp
  | cons v rest ih =>
    rw [List.foldl_cons, List.getLastD_cons]
    by_cases same : p.host = v
    · subst same
      rw [Prefs.setHost, if_pos rfl, ih]
      simp
    · rw [Prefs.setHost, if_neg same, ih]
      simp [Ne.symm same]

/-- `prefs --save` writes the prefs file exactly when a `--host` flag gave a host other than
the one `init` chose, and then writes the last one given. `init` chose `CATCH_HOST` when it
is set, not the file's host: a `--host` equal to `CATCH_HOST` is never saved, whatever the
file holds. -/
theorem prefsSaveWrites (fileHost catchHost : String) (flags : List String) (save : Except String Unit) :
    (prefsCmd (flags.foldl Prefs.setHost (initPrefs fileHost catchHost)) true save).written =
      if flags.any (· != (initPrefs fileHost catchHost).host) then some (flags.getLastD "") else none := by
  rw [setHostRun]
  have fresh : (initPrefs fileHost catchHost).changed = false := rfl
  generalize initPrefs fileHost catchHost = p at fresh ⊢
  cases differs : flags.any (· != p.host)
  · simp [prefsCmd, fresh, differs]
  · have nonEmpty : flags ≠ [] := by rintro rfl; simp at differs
    cases save <;> simp [prefsCmd, fresh, differs, List.getLastD_eq_getLast?, List.getLast?_eq_getLast _ nonEmpty]

example : (prefsCmd (["foo"].foldl Prefs.setHost (initPrefs "bar" "foo")) true (.ok ())).written = none := by decide

/-- A peer of `ipnstate.Status` as the client reads it. -/
structure Peer where
  dnsName : String
  /-- `peer.Tags`, `none` for a nil view. -/
  tags : Option (List String)
  deriving DecidableEq, Repr

/-- The loop of `getDockerHost` over the peers: a peer's DNS name without its final dot,
compared in full and by its first label. -/
def findDockerHost (host : String) : List Peer → Except String String
  | [] => .error "host not found"
  | peer :: rest =>
      if Strings.equalFold (Strings.trimSuffix peer.dnsName '.') host then .ok (Strings.trimSuffix peer.dnsName '.')
      else if Strings.equalFold (Strings.cut peer.dnsName '.').1 host then .ok (Strings.trimSuffix peer.dnsName '.')
      else findDockerHost host rest

/-- `getDockerHost`, for the preferred host `host` and what `Status` returned. -/
def getDockerHost (host : String) (status : Except String (List Peer)) : Except String String :=
  match status with
  | .error e => .error e
  | .ok peers => findDockerHost host peers

structure HostRow where
  host : String
  version : String
  tags : String
  deriving DecidableEq, Repr

/-- `runListHosts`: `filter` is the `--tags` flag, `sshVersion` what `ssh <host> version`
prints, `status` this node's DNS name and the peers. -/
def runListHosts (filter : List String) (sshVersion : String → Except String String)
    (status : Except String (String × List Peer)) : Except String (List HostRow) :=
  match status with
  | .error e => .error e
  | .ok (self, peers) =>
      let selfDomain := (Strings.cut self '.').2.1
      .ok (peers.filterMap fun peer =>
        match peer.tags with
        | none => none
        | some tags =>
            if !overlaps tags filter then none else
            let cut := Strings.cut peer.dnsName '.'
            if cut.2.1 ≠ selfDomain then none else
            let version := match sshVersion cut.1 with
              | .ok out => out
              | .error _ => "unknown"
            some ⟨cut.1, Strings.trimSpace version, String.intercalate "," tags⟩)

/-- A peer `getDockerHost` takes for `host`. -/
def hostMatches (host : String) (peer : Peer) : Bool :=
  Strings.equalFold (Strings.trimSuffix peer.dnsName '.') host || Strings.equalFold (Strings.cut peer.dnsName '.').1 host

@[simp] theorem equalFoldSelf (s : String) : Strings.equalFold s s = true := by
  simp [Strings.equalFold]

theorem findDockerHostOk {host name : String} {peers : List Peer} (found : findDockerHost host peers = .ok name) :
    ∃ p ∈ peers, hostMatches host p = true ∧ name = Strings.trimSuffix p.dnsName '.' := by
  induction peers with
  | nil => cases found
  | cons peer rest ih =>
    unfold findDockerHost at found
    split_ifs at found with full short
    · cases found
      exact ⟨peer, List.mem_cons_self _ _, by simp [hostMatches, full], rfl⟩
    · cases found
      exact ⟨peer, List.mem_cons_self _ _, by simp [hostMatches, short], rfl⟩
    · obtain ⟨p, mem, named, rfl⟩ := ih found
      exact ⟨p, List.mem_cons_of_mem _ mem, named, rfl⟩

theorem findDockerHostSucceeds {host : String} {peers : List Peer} {p : Peer} (mem : p ∈ peers)
    (named : hostMatches host p = true) : ∃ name, findDockerHost host peers = .ok name := by
  induction peers with
  | nil => cases mem
  | cons peer rest ih =>
    unfold findDockerHost
    split_ifs with full short
    · exact ⟨_, rfl⟩
    · exact ⟨_, rfl⟩
    · rcases List.mem_cons.mp mem with rfl | later
      · simp [hostMatches, full, short] at named
      · exact ih later

theorem listedPeer {filter : List String} {sshVersion : String → Except String String} {self : String}
    {peers : List Peer} {rows : List HostRow} (listed : runListHosts filter sshVersion (.ok (self, peers)) = .ok rows)
    {row : HostRow} (mem : row ∈ rows) : ∃ p ∈ peers, (Strings.cut p.dnsName '.').1 = row.host := by
  cases listed
  obtain ⟨p, inPeers, made⟩ := List.mem_filterMap.mp mem
  refine ⟨p, inPeers, ?_⟩
  split at made
  · cases made
  · dsimp only at made
    split_ifs at made
    cases made
    rfl

/-- Every host `list-hosts` shows resolves when it is the preferred host: `getDockerHost`
answers the DNS name of a peer the host names, by full name or by first label. That peer
is the first such in the iteration order, of any domain, and need not be the one listed. -/
theorem listedHostsResolve (filter : List String) (sshVersion : String → Except String String) (self : String)
    (peers : List Peer) {rows : List HostRow} (listed : runListHosts filter sshVersion (.ok (self, peers)) = .ok rows)
    {row : HostRow} (mem : row ∈ rows) :
    ∃ p ∈ peers, hostMatches row.host p = true ∧
      getDockerHost row.host (.ok peers) = .ok (Strings.trimSuffix p.dnsName '.') := by
  obtain ⟨q, inPeers, label⟩ := listedPeer listed mem
  obtain ⟨name, found⟩ := @findDockerHostSucceeds row.host peers q inPeers (by simp [hostMatches, label])
  obtain ⟨p, mem, named, rfl⟩ := findDockerHostOk found
  exact ⟨p, mem, named, found⟩

def sharedCatchPeers : List Peer :=
  [⟨"catch.other.ts.net.", some ["tag:catch"]⟩, ⟨"catch.tail.ts.net.", some ["tag:catch"]⟩]

theorem sharedCatchShadows :
    runListHosts ["tag:catch"] (fun _ => .ok "v1") (.ok ("laptop.tail.ts.net.", sharedCatchPeers)) =
        .ok [⟨"catch", "v1", "tag:catch"⟩] ∧
      (⟨"catch", "v1", "tag:catch"⟩ : HostRow) ∈ [(⟨"catch", "v1", "tag:catch"⟩ : HostRow)] ∧
      (∃ p ∈ sharedCatchPeers, hostMatches "catch" p = true ∧
        getDockerHost "catch" (.ok sharedCatchPeers) = .ok (Strings.trimSuffix p.dnsName '.')) ∧
      getDockerHost "catch" (.ok sharedCatchPeers) = .ok "catch.other.ts.net" := by
  have listed : runListHosts ["tag:catch"] (fun _ => .ok "v1") (.ok ("laptop.tail.ts.net.", sharedCatchPeers)) =
      .ok [⟨"catch", "v1", "tag:catch"⟩] := rfl
  exact ⟨listed, List.mem_singleton_self _,
    listedHostsResolve ["tag:catch"] _ _ sharedCatchPeers listed (List.mem_singleton_self _), rfl⟩

end Yeet.Client
