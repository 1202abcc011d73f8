import Yeet.Db.Data

/-! The migrations of the state document (`pkg/db/migrate.go`): the table `migrators` from
a document's version to the step that moves it on, and its entry for version 4,
`addDockerEndpoints`, which moves every network's `EndpointAddrs` into its `Endpoints`. The
document holds its networks by pointer, as it does its images and volumes, so the updates
through the range variable reach the stored networks; a `nil` network in the document is
not modelled. `log.Fatal` ends the process and is modelled as `none`. -/
namespace Yeet.Db

/-- A map with `f` applied to every value: what a `range` over a map of pointers does when
it updates each value in place. -/
def mapValues {K V : Type} (f : V → V) (m : GoMap K V) : GoMap K V :=
  ⟨m.entries.map fun e => ⟨e.1, f e.2⟩, by
    show (List.map Sigma.fst _).Nodup
    rw [List.map_map]
    exact m.nodupKeys⟩

/-- One network after the loop of `addDockerEndpoints`: every address of `EndpointAddrs`
set by `mak.Set` in `Endpoints` under its key, with the key as the endpoint's id, then
`EndpointAddrs` set to `nil`. -/
def addEndpoints (net : DockerNetwork) : DockerNetwork :=
  { endpoints := net.endpointAddrs.entries.foldl (fun eps e => eps.insert e.1 ⟨e.1, e.2⟩) net.endpoints,
    endpointAddrs := ∅ }

/-- `addDockerEndpoints`, which returns no error. -/
def addDockerEndpoints (d : Data) : Option (Except String Data) :=
  some (.ok { d with dockerNetworks := mapValues addEndpoints d.dockerNetworks })

/-- `reinit`, which ends the process with `log.Fatal`. -/
def reinit (_d : Data) : Option (Except String Data) := none

/-- `migrators`: the step for each start version that has one. -/
def migrators (version : Int) : Option (Data → Option (Except String Data)) :=
  if version = 3 then some reinit else if version = 4 then some addDockerEndpoints else none

theorem lookupMapValues {K V : Type} [DecidableEq K] (f : V → V) (m : GoMap K V) (k : K) :
    (mapValues f m).lookup k = (m.lookup k).map f :=
  @List.dlookup_map K K (fun _ => V) (fun _ => V) _ _ m.entries id Function.injective_id (fun _ v => f v) k

theorem lookupSetAll (eps : GoMap String DockerEndpoint) {addrs : List (Σ _ : String, String)}
    (distinct : addrs.NodupKeys) (k : String) :
    (addrs.foldl (fun eps e => eps.insert e.1 ⟨e.1, e.2⟩) eps).lookup k =
      match addrs.dlookup k with
      | some a => some ⟨k, a⟩
      | none => eps.lookup k := by
  induction addrs generalizing eps with
  | nil => rfl
  | cons e rest ih =>
    obtain ⟨fresh, restDistinct⟩ := List.nodupKeys_cons.mp distinct
    rw [List.foldl_cons, ih _ restDistinct]
    by_cases same : k = e.1
    · subst same
      rw [List.dlookup_eq_none.mpr fresh, List.dlookup_cons_eq, AList.lookup_insert]
    · rw [List.dlookup_cons_ne rest e same]
      cases rest.dlookup k with
      | some a => rfl
      | none => exact AList.lookup_insert_ne same

/-- Migration 4 loses no endpoint: the table's entry for version 4 succeeds on every
document, every network keeps its name, stores each address of its `EndpointAddrs` as the
endpoint of that key with that address, keeps every other endpoint, and is left without
`EndpointAddrs`; nothing else of the document changes. -/
theorem migration4KeepsEndpoints (d : Data) :
    ∃ migrate, migrators 4 = some migrate ∧ ∃ d', migrate d = some (.ok d') ∧
      { d' with dockerNetworks := d.dockerNetworks } = d ∧
      (∀ name, (d'.dockerNetworks.lookup name).isSome = (d.dockerNetworks.lookup name).isSome) ∧
      ∀ name net net', d.dockerNetworks.lookup name = some net → d'.dockerNetworks.lookup name = some net' →
        (∀ k a, net.endpointAddrs.lookup k = some a → net'.endpoints.lookup k = some ⟨k, a⟩) ∧
        (∀ k, net.endpointAddrs.lookup k = none → net'.endpoints.lookup k = net.endpoints.lookup k) ∧
        net'.endpointAddrs = ∅ := by
  refine ⟨addDockerEndpoints, rfl, _, rfl, rfl, fun name => ?_, fun name net net' stored migrated => ?_⟩
  · rw [lookupMapValues]
    cases d.dockerNetworks.lookup name <;> rfl
  · rw [lookupMapValues, stored, Option.map_some'] at migrated
    obtain rfl := Option.some.inj migrated
    have moved := lookupSetAll net.endpoints net.endpointAddrs.nodupKeys
    refine ⟨fun k a listed => ?_, fun k unlisted => ?_, rfl⟩
    · rw [addEndpoints, moved k, show net.endpointAddrs.entries.dlookup k = some a from listed]
    · rw [addEndpoints, moved k, show net.endpointAddrs.entries.dlookup k = none from unlisted]

end Yeet.Db
