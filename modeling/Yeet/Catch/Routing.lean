import Mathlib.Algebra.Group.Nat.Basic
import Yeet.Go.Strings

/-! How a connection from the tailnet reaches a handler of the daemon: the tsnet listeners
`:22` (SSH), `:80` (redirect) and `:443` (`WebMux`), the fallback TCP handler `initTSNet`
installs for every other port, and the internal registry listener on loopback. The
tailscale local client (`StatusWithoutPeers`, `WhoIs`) is a parameter. Loopback services
other than the internal registry, and the registry's own handler behind `ServeHTTP`, are
not modelled: a connection relayed to any other loopback port reaches no modelled handler. -/
namespace Yeet.Routing

/-- `netip.Addr`: an IPv4 address as a 32-bit number, or an IPv6 address as a 128-bit one. -/
structure Addr where
  is4 : Bool
  bits : Nat
  deriving DecidableEq, Repr

/-- `netip.Addr.IsLoopback`: `127.0.0.0/8`, or `::1`. -/
def Addr.isLoopback (a : Addr) : Bool :=
  if a.is4 then a.bits / 2 ^ 24 = 127 else a.bits = 1

def ipv4Loopback : Addr := ⟨true, 0x7f000001⟩
def ipv6Loopback : Addr := ⟨false, 1⟩

theorem loopbacksAreLoopback : ipv4Loopback.isLoopback = true ∧ ipv6Loopback.isLoopback = true := by
  decide

structure AddrPort where
  addr : Addr
  port : Nat
  deriving DecidableEq, Repr

structure TsNode where
  tags : List String
  user : Nat
  deriving DecidableEq, Repr

def TsNode.isTagged (n : TsNode) : Bool := !n.tags.isEmpty

/-- The tailscale local client: this node's status, and `WhoIs` of a remote address. -/
structure LocalClient where
  status : Except String TsNode
  whoIs : AddrPort → Except String TsNode

def overlaps (a b : List String) : Bool := a.any fun x => b.contains x

def errUnauthorized : String := "unauthorized connection"

/-- `Server.verifyCaller`. -/
def verifyCaller (lc : LocalClient) (remoteAddr : AddrPort) : Except String Unit :=
  match lc.status with
  | .error e => .error ("failed to get local client status: " ++ e)
  | .ok self =>
      match lc.whoIs remoteAddr with
      | .error e => .error ("failed to get whois: " ++ e)
      | .ok who =>
          if who.isTagged then
            if self.isTagged && overlaps who.tags self.tags then .ok () else .error errUnauthorized
          else if self.isTagged then .ok ()
          else if self.user = who.user then .ok ()
          else .error errUnauthorized

inductive Handler where
  /-- `handleSession`, once `NoClientAuthHandler` accepted the caller. -/
  | sshSession
  /-- The `:80` redirect to `https://`. -/
  | redirect
  /-- `WebMux`'s `/`: the embedded web files. -/
  | webFiles
  /-- The registry behind `containerRegistry.ServeHTTP`. -/
  | registry
  /-- The `/api/v0/` mux behind `handleAPI`'s `authZ`. -/
  | api
  deriving DecidableEq, Repr

structure Request where
  method : String
  path : String
  deriving DecidableEq, Repr

/-- `containerRegistry.ServeHTTP`: a loopback caller may read, any other must pass
`verifyCaller`. -/
def containerRegistryServeHTTP (lc : LocalClient) (remoteAddr : AddrPort) (method : String) :
    Except (Nat × String) Unit :=
  if remoteAddr.addr.isLoopback then
    if method ≠ "GET" ∧ method ≠ "HEAD" ∧ method ≠ "OPTIONS" then .error (405, "Registry is read-only")
    else .ok ()
  else
    match verifyCaller lc remoteAddr with
    | .error e => .error (401, e)
    | .ok () => .ok ()

def registryHandler (lc : LocalClient) (remoteAddr : AddrPort) (method : String) : Option Handler :=
  match containerRegistryServeHTTP lc remoteAddr method with
  | .ok () => some .registry
  | .error _ => none

/-- `handleAPI`: the mux runs behind `authZ`. -/
def handleAPI (lc : LocalClient) (remoteAddr : AddrPort) : Option Handler :=
  match verifyCaller lc remoteAddr with
  | .ok () => some .api
  | .error _ => none

/-- `handleSSHConnection`: the session runs once `NoClientAuthHandler` accepted the caller. -/
def handleSSHConnection (lc : LocalClient) (remoteAddr : AddrPort) : Option Handler :=
  match verifyCaller lc remoteAddr with
  | .ok () => some .sshSession
  | .error _ => none

/-- `Server.WebMux`: `/v2/` to the registry, `/api/v0/` to the API, the rest to the files. -/
def webMux (lc : LocalClient) (remoteAddr : AddrPort) (r : Request) : Option Handler :=
  if Strings.hasPrefix r.path "/v2/" then registryHandler lc remoteAddr r.method
  else if Strings.hasPrefix r.path "/api/v0/" then handleAPI lc remoteAddr
  else some .webFiles

structure Daemon where
  tsIPs : List Addr
  internalRegistry : AddrPort

/-- The address the fallback handler of `initTSNet` dials for a connection to `dst`: the
same port on the loopback address of `dst`'s family, when `dst` is one of the node's IPs. -/
def fallbackDial (tsIPs : List Addr) (dst : AddrPort) : Option AddrPort :=
  if dst.addr ∈ tsIPs then some ⟨if dst.addr.is4 then ipv4Loopback else ipv6Loopback, dst.port⟩
  else none

/-- The handler that runs for a request from `src` to `dst` on the tailnet. Ports 22, 80 and
443 are tsnet listeners; any other port goes to the fallback handler, whose relayed
connection reaches the internal registry when it listens on the dialled address, and
arrives there from the dialled loopback address at the dialler's port `relayPort`. -/
def serve (dmn : Daemon) (lc : LocalClient) (relayPort : Nat) (src dst : AddrPort) (r : Request) :
    Option Handler :=
  if dst.addr ∉ dmn.tsIPs then none
  else if dst.port = 22 then handleSSHConnection lc src
  else if dst.port = 80 then some .redirect
  else if dst.port = 443 then webMux lc src r
  else
    match fallbackDial dmn.tsIPs dst with
    | some dial =>
        if dial = dmn.internalRegistry then registryHandler lc ⟨dial.addr, relayPort⟩ r.method else none
    | none => none

theorem handleSSHConnectionVerified {lc : LocalClient} {remoteAddr : AddrPort} {h : Handler}
    (runs : handleSSHConnection lc remoteAddr = some h) : verifyCaller lc remoteAddr = .ok () := by
  unfold handleSSHConnection at runs
  split at runs
  · assumption
  · cases runs

theorem handleAPIVerified {lc : LocalClient} {remoteAddr : AddrPort} {h : Handler}
    (runs : handleAPI lc remoteAddr = some h) : verifyCaller lc remoteAddr = .ok () := by
  unfold handleAPI at runs
  split at runs
  · assumption
  · cases runs

theorem registryHandlerRegistry {lc : LocalClient} {remoteAddr : AddrPort} {method : String}
    {h : Handler} (runs : registryHandler lc remoteAddr method = some h) : h = .registry := by
  unfold registryHandler at runs
  split at runs
  · exact (Option.some.inj runs).symm
  · cases runs

theorem registryHandlerRemote {lc : LocalClient} {remoteAddr : AddrPort} {method : String}
    {h : Handler} (remote : remoteAddr.addr.isLoopback = false)
    (runs : registryHandler lc remoteAddr method = some h) : verifyCaller lc remoteAddr = .ok () := by
  unfold registryHandler containerRegistryServeHTTP at runs
  cases verified : verifyCaller lc remoteAddr with
  | error e => simp [remote, verified] at runs
  | ok u => rfl

theorem registryHandlerLoopback (lc : LocalClient) (remoteAddr : AddrPort) (method : String)
    (loopback : remoteAddr.addr.isLoopback = true) :
    registryHandler lc remoteAddr method =
      if method ∈ ["GET", "HEAD", "OPTIONS"] then some .registry else none := by
  by_cases reads : method = "GET" ∨ method = "HEAD" ∨ method = "OPTIONS"
  · have reads' : ¬ (method ≠ "GET" ∧ method ≠ "HEAD" ∧ method ≠ "OPTIONS") := by tauto
    simp [registryHandler, containerRegistryServeHTTP, loopback, reads', reads]
  · simp only [not_or] at reads
    simp [registryHandler, containerRegistryServeHTTP, loopback, reads]

theorem webMuxHandlers {lc : LocalClient} {remoteAddr : AddrPort} {r : Request} {h : Handler}
    (runs : webMux lc remoteAddr r = some h) :
    h = .webFiles ∨ h = .api ∧ verifyCaller lc remoteAddr = .ok () ∨
      h = .registry ∧ registryHandler lc remoteAddr r.method = some .registry := by
  unfold webMux at runs
  split at runs
  · have same := registryHandlerRegistry runs
    subst same
    exact .inr (.inr ⟨rfl, runs⟩)
  · split at runs
    · refine .inr (.inl ⟨?_, handleAPIVerified runs⟩)
      unfold handleAPI at runs
      split at runs <;> simp_all
    · exact .inl (Option.some.inj runs).symm

theorem fallbackDialLoopback {tsIPs : List Addr} {dst dial : AddrPort}
    (dialled : fallbackDial tsIPs dst = some dial) : dial.addr.isLoopback = true ∧ dial.port = dst.port := by
  unfold fallbackDial at dialled
  split at dialled
  · cases dialled
    split
    · exact ⟨loopbacksAreLoopback.1, rfl⟩
    · exact ⟨loopbacksAreLoopback.2, rfl⟩
  · cases dialled

theorem serveCases {dmn : Daemon} {lc : LocalClient} {relayPort : Nat} {src dst : AddrPort}
    {r : Request} {h : Handler} (runs : serve dmn lc relayPort src dst r = some h) :
    handleSSHConnection lc src = some h ∨ h = .redirect ∨ webMux lc src r = some h ∨
      ∃ dial, fallbackDial dmn.tsIPs dst = some dial ∧ dial = dmn.internalRegistry ∧
        registryHandler lc ⟨dial.addr, relayPort⟩ r.method = some h := by
  unfold serve at runs
  by_cases outside : dst.addr ∉ dmn.tsIPs
  · rw [if_pos outside] at runs; cases runs
  rw [if_neg outside] at runs
  by_cases ssh : dst.port = 22
  · rw [if_pos ssh] at runs; exact .inl runs
  rw [if_neg ssh] at runs
  by_cases redirect : dst.port = 80
  · rw [if_pos redirect] at runs; exact .inr (.inl (Option.some.inj runs).symm)
  rw [if_neg redirect] at runs
  by_cases web : dst.port = 443
  · rw [if_pos web] at runs; exact .inr (.inr (.inl runs))
  rw [if_neg web] at runs
  rcases dialled : fallbackDial dmn.tsIPs dst with _ | dial <;> simp only [dialled] at runs
  · cases runs
  · by_cases same : dial = dmn.internalRegistry
    · rw [if_pos same] at runs; exact .inr (.inr (.inr ⟨dial, rfl, same, runs⟩))
    · rw [if_neg same] at runs; cases runs

theorem handleSSHConnectionSession {lc : LocalClient} {remoteAddr : AddrPort} {h : Handler}
    (runs : handleSSHConnection lc remoteAddr = some h) : h = .sshSession := by
  unfold handleSSHConnection at runs
  split at runs
  · exact (Option.some.inj runs).symm
  · cases runs

/-- What a connection from a tailnet peer can reach: the SSH session and the API only once
`verifyCaller` accepts the peer; the registry once `verifyCaller` accepts the peer, or
through the fallback relay to the internal registry's loopback port for a reading method,
with no check of the peer. -/
theorem serveAuthorization (dmn : Daemon) (lc : LocalClient) (relayPort : Nat) (src dst : AddrPort)
    (r : Request) (remote : src.addr.isLoopback = false) :
    (serve dmn lc relayPort src dst r = some .sshSession → verifyCaller lc src = .ok ()) ∧
      (serve dmn lc relayPort src dst r = some .api → verifyCaller lc src = .ok ()) ∧
      (serve dmn lc relayPort src dst r = some .registry →
        verifyCaller lc src = .ok () ∨
          dst.port = dmn.internalRegistry.port ∧ dmn.internalRegistry.addr.isLoopback ∧
            r.method ∈ ["GET", "HEAD", "OPTIONS"]) := by
  refine ⟨fun runs => ?_, fun runs => ?_, fun runs => ?_⟩
  · rcases serveCases runs with ssh | redirect | web | ⟨dial, -, -, relayed⟩
    · exact handleSSHConnectionVerified ssh
    · cases redirect
    · rcases webMuxHandlers web with ⟨⟨⟩⟩ | ⟨⟨⟩, -⟩ | ⟨⟨⟩, -⟩
    · cases registryHandlerRegistry relayed
  · rcases serveCases runs with ssh | redirect | web | ⟨dial, -, -, relayed⟩
    · cases handleSSHConnectionSession ssh
    · cases redirect
    · rcases webMuxHandlers web with ⟨⟨⟩⟩ | ⟨-, verified⟩ | ⟨⟨⟩, -⟩
      exact verified
    · cases registryHandlerRegistry relayed
  · rcases serveCases runs with ssh | redirect | web | ⟨dial, dialled, rfl, relayed⟩
    · cases handleSSHConnectionSession ssh
    · cases redirect
    · rcases webMuxHandlers web with ⟨⟨⟩⟩ | ⟨⟨⟩, -⟩ | ⟨-, reached⟩
      exact .inl (registryHandlerRemote remote reached)
    · obtain ⟨loopback, port⟩ := fallbackDialLoopback dialled
      rw [registryHandlerLoopback lc ⟨_, relayPort⟩ r.method loopback] at relayed
      split at relayed
      · exact .inr ⟨port.symm, loopback, ‹_›⟩
      · cases relayed

def sampleDaemon : Daemon := ⟨[⟨true, 0x64400001⟩], ⟨ipv4Loopback, 38123⟩⟩

def sampleClient : LocalClient := ⟨.ok ⟨[], 1⟩, fun _ => .ok ⟨[], 2⟩⟩

def samplePeer : AddrPort := ⟨⟨true, 0x64400002⟩, 51000⟩

/-- A peer that `verifyCaller` rejects gets no SSH session, no API and no registry on the
node's listeners, but the registry serves its GET on the internal registry's port. -/
theorem rejectedPeerReadsRegistry :
    verifyCaller sampleClient samplePeer = .error errUnauthorized ∧
      serve sampleDaemon sampleClient 40000 samplePeer ⟨⟨true, 0x64400001⟩, 22⟩ ⟨"GET", "/"⟩ = none ∧
      serve sampleDaemon sampleClient 40000 samplePeer ⟨⟨true, 0x64400001⟩, 443⟩
        ⟨"GET", "/api/v0/services"⟩ = none ∧
      serve sampleDaemon sampleClient 40000 samplePeer ⟨⟨true, 0x64400001⟩, 443⟩
        ⟨"GET", "/v2/app/web/manifests/run"⟩ = none ∧
      serve sampleDaemon sampleClient 40000 samplePeer ⟨⟨true, 0x64400001⟩, 38123⟩
        ⟨"GET", "/v2/app/web/manifests/run"⟩ = some .registry :=
  ⟨rfl, by decide, by decide, by decide, by decide⟩

theorem rejectedPeerRelayed :
    samplePeer.addr.isLoopback = false ∧
      (serve sampleDaemon sampleClient 40000 samplePeer ⟨⟨true, 0x64400001⟩, 38123⟩
          ⟨"GET", "/v2/app/web/manifests/run"⟩ = some .registry →
        verifyCaller sampleClient samplePeer = .ok () ∨
          38123 = sampleDaemon.internalRegistry.port ∧ sampleDaemon.internalRegistry.addr.isLoopback ∧
            "GET" ∈ ["GET", "HEAD", "OPTIONS"]) :=
  ⟨rfl, (serveAuthorization sampleDaemon sampleClient 40000 samplePeer ⟨⟨true, 0x64400001⟩, 38123⟩
    ⟨"GET", "/v2/app/web/manifests/run"⟩ rfl).2.2⟩

end Yeet.Routing
