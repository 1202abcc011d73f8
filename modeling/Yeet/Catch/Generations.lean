import Yeet.Catch.Lifecycle

/-! The two handlers that write a service's generation fields: `rollbackCmdFunc`, which
lowers `Generation` by one, and `editCmdFunc --config`, which stores the service the
operator saved. Over any run of rollbacks every service keeps `Generation ≤
LatestGeneration` and its `LatestGeneration`; the edit stores its service as it is, with
no comparison to the one it replaces. -/
namespace Yeet.Catch
open Yeet.Db

def GenerationsOrdered (d : Data) : Prop :=
  ∀ name s, d.services.lookup name = some s → s.generation ≤ s.latestGeneration

/-- Every service of `d` is in `d'` with the same latest generation. -/
def LatestUnchanged (d d' : Data) : Prop :=
  ∀ name s, d.services.lookup name = some s →
    ∃ s', d'.services.lookup name = some s' ∧ s'.latestGeneration = s.latestGeneration

theorem LatestUnchanged.refl (d : Data) : LatestUnchanged d d :=
  fun _ s found => ⟨s, found, rfl⟩

theorem LatestUnchanged.trans {d d' d'' : Data} (first : LatestUnchanged d d')
    (second : LatestUnchanged d' d'') : LatestUnchanged d d'' := by
  intro name s found
  obtain ⟨s', found', same⟩ := first name s found
  obtain ⟨s'', found'', same'⟩ := second name s' found'
  exact ⟨s'', found'', same'.trans same⟩

theorem rollbackGenerationOk {maxGenerations : Int} {s s' : Service}
    (ok : rollbackGeneration maxGenerations s = .ok s') :
    s' = { s with generation := s.generation - 1 } := by
  unfold rollbackGeneration at ok
  split at ok
  · cases ok
  · dsimp only at ok
    split at ok
    · cases ok
    · split at ok
      · cases ok
      · cases ok; rfl

theorem lookupInsertService (d : Data) (sn name : String) (s : Service) :
    { d with services := d.services.insert sn s }.services.lookup name =
      if name = sn then some s else d.services.lookup name := by
  by_cases same : name = sn
  · subst same; simp [AList.lookup_insert]
  · simp [same, AList.lookup_insert_ne same]

theorem orderedGetD {d : Data} (ordered : GenerationsOrdered d) (name : String) :
    ((d.services.lookup name).getD (Service.fresh name)).generation ≤
      ((d.services.lookup name).getD (Service.fresh name)).latestGeneration := by
  cases found : d.services.lookup name with
  | none => simp [Service.fresh]
  | some s => exact ordered name s found

theorem rollbackCommitted {d d' : Data} {maxGenerations : Int} {sn : String} {s : Service}
    (ok : d.mutateService sn (rollbackGeneration maxGenerations) = .ok (d', s)) :
    d' = { d with services := d.services.insert sn s } ∧
      s.generation = ((d.services.lookup sn).getD (Service.fresh sn)).generation - 1 ∧
      s.latestGeneration = ((d.services.lookup sn).getD (Service.fresh sn)).latestGeneration := by
  obtain ⟨lowered, rfl⟩ := mutateServiceOk ok
  rw [rollbackGenerationOk lowered]
  exact ⟨rfl, rfl, rfl⟩

theorem rollbackOrdered (io : Outcomes) (maxGenerations : Int) (sn : String) (w : World)
    (ordered : GenerationsOrdered w.db) :
    GenerationsOrdered (rollbackCmdFunc io maxGenerations sn w).2.db := by
  rcases rollbackCmdFuncWorld io maxGenerations sn w with same | ⟨d, s, ok, written⟩
  · rwa [same]
  · intro name s' found
    have below := orderedGetD ordered sn
    obtain ⟨rfl, lowered, kept⟩ := rollbackCommitted ok
    rw [written, lookupInsertService] at found
    split at found
    · cases found; omega
    · exact ordered name s' found

theorem rollbackLatestUnchanged (io : Outcomes) (maxGenerations : Int) (sn : String) (w : World) :
    LatestUnchanged w.db (rollbackCmdFunc io maxGenerations sn w).2.db := by
  rcases rollbackCmdFuncWorld io maxGenerations sn w with same | ⟨d, s, ok, written⟩
  · rw [same]; exact LatestUnchanged.refl _
  · intro name s' found
    obtain ⟨rfl, -, kept⟩ := rollbackCommitted ok
    rw [written, lookupInsertService]
    split
    · rename_i same
      subst same
      exact ⟨s, rfl, by simp [kept, found]⟩
    · exact ⟨s', found, rfl⟩

def RollbackStep (w w' : World) : Prop :=
  ∃ io maxGenerations sn, w' = (rollbackCmdFunc io maxGenerations sn w).2

theorem rollbackRunKeepsGenerations {w w' : World} (run : Relation.ReflTransGen RollbackStep w w') :
    (GenerationsOrdered w.db → GenerationsOrdered w'.db) ∧ LatestUnchanged w.db w'.db := by
  induction run with
  | refl => exact ⟨id, LatestUnchanged.refl _⟩
  | tail _ step ih =>
    obtain ⟨io, maxGenerations, sn, rfl⟩ := step
    exact ⟨fun ordered => rollbackOrdered io maxGenerations sn _ (ih.1 ordered),
      ih.2.trans (rollbackLatestUnchanged io maxGenerations sn _)⟩

theorem editConfigCommits {io : Outcomes} {parseService : String → Except String Service}
    {sn content : String} {editEnv : Bool} {w : World} {sv : Service}
    (found : w.db.services.lookup sn = some sv) :
    editCmdFunc io parseService sn editEnv true (.edited content) w =
      commitConfig io parseService sn content w := by
  simp [editCmdFunc, found]

theorem editConfigStores (io : Outcomes) (parseService : String → Except String Service)
    (sn content : String) (editEnv : Bool) (w : World) :
    (∀ s2, parseService content = .ok s2 → (w.db.services.lookup sn).isSome →
      (editCmdFunc io parseService sn editEnv true (.edited content) w).2.db =
        if io.store then { w.db with services := w.db.services.insert sn s2 } else w.db) ∧
    ((w.db.services.lookup sn = none ∨ (∃ e, parseService content = .error e) ∨ io.store = false) →
      (editCmdFunc io parseService sn editEnv true (.edited content) w).2.db = w.db ∧
        ∃ e, (editCmdFunc io parseService sn editEnv true (.edited content) w).1 = .error e) := by
  refine ⟨fun s2 parsed present => ?_, fun cause => ?_⟩
  · obtain ⟨sv, found⟩ := Option.isSome_iff_exists.mp present
    rw [editConfigCommits found, (commitConfigCommit io parseService sn content w).1 s2 parsed]
    split <;> rfl
  · rcases found : w.db.services.lookup sn with _ | sv
    · unfold editCmdFunc
      rw [found]
      exact ⟨rfl, _, rfl⟩
    · rw [editConfigCommits found]
      unfold commitConfig
      rcases parsed : parseService content with e | s2
      · exact ⟨rfl, _, rfl⟩
      · rcases cause with absent | ⟨e, fails⟩ | noStore
        · cases absent.symm.trans found
        · cases parsed.symm.trans fails
        · simp only [mutateService, Data.mutateService, noStore, Bool.false_eq_true, if_false]
          exact ⟨trivial, _, rfl⟩

/-- Any run of rollbacks keeps every service's `Generation ≤ LatestGeneration` and its
`LatestGeneration`; an edit with `--config` stores the operator's service verbatim, and
leaves the document as it was only when it fails before or at the write. -/
theorem generationWrites (io : Outcomes) (parseService : String → Except String Service)
    (sn content : String) (editEnv : Bool) (w : World) :
    (∀ w', Relation.ReflTransGen RollbackStep w w' →
      (GenerationsOrdered w.db → GenerationsOrdered w'.db) ∧ LatestUnchanged w.db w'.db) ∧
    (∀ s2, parseService content = .ok s2 → (w.db.services.lookup sn).isSome →
      (editCmdFunc io parseService sn editEnv true (.edited content) w).2.db =
        if io.store then { w.db with services := w.db.services.insert sn s2 } else w.db) ∧
    ((w.db.services.lookup sn = none ∨ (∃ e, parseService content = .error e) ∨ io.store = false) →
      (editCmdFunc io parseService sn editEnv true (.edited content) w).2.db = w.db ∧
        ∃ e, (editCmdFunc io parseService sn editEnv true (.edited content) w).1 = .error e) :=
  ⟨fun _ run => rollbackRunKeepsGenerations run, editConfigStores io parseService sn content editEnv w⟩

def editedApp : Service := ⟨"app", .systemd, 3, 1, ∅, none⟩

theorem sampleWorldOrdered : GenerationsOrdered sampleWorld.db := by
  intro name s found
  by_cases same : name = "app"
  · subst same
    simp only [sampleWorld, AList.lookup_insert, Option.some.injEq] at found
    subst found
    decide
  · simp only [sampleWorld, AList.lookup_insert_ne same, AList.lookup_empty] at found
    cases found

/-- From a document where every service is ordered, a successful `edit --config` stores a
service whose generation is above its latest, and lowers the latest generation. -/
theorem editConfigBreaksGenerations :
    GenerationsOrdered sampleWorld.db ∧
      (editCmdFunc sampleOutcomes (fun _ => .ok editedApp) "app" false true (.edited "{}")
        sampleWorld).1 = .ok () ∧
      ¬ GenerationsOrdered (editCmdFunc sampleOutcomes (fun _ => .ok editedApp) "app" false true
        (.edited "{}") sampleWorld).2.db ∧
      ¬ LatestUnchanged sampleWorld.db (editCmdFunc sampleOutcomes (fun _ => .ok editedApp) "app"
        false true (.edited "{}") sampleWorld).2.db := by
  refine ⟨sampleWorldOrdered, rfl, fun ordered => ?_, fun kept => ?_⟩
  · exact absurd (ordered "app" editedApp rfl) (by decide)
  · obtain ⟨s', found, same⟩ := kept "app" _ rfl
    cases found
    exact absurd same (by decide)

def windowWorld : World :=
  ⟨{ Data.empty with services := (∅ : GoMap String Service).insert "app" ⟨"app", .dockerCompose, 6, 10, ∅, none⟩ },
    []⟩

/-- With 5 generations kept, generation 6 of 10 rolls back to generation 5, below the
window `[10 - 5 + 1, 10]`. -/
theorem rollbackBelowWindow :
    (rollbackCmdFunc sampleOutcomes 5 "app" windowWorld).1 = .ok () ∧
      ((rollbackCmdFunc sampleOutcomes 5 "app" windowWorld).2.db.services.lookup "app").map Service.generation =
        some 5 ∧
      ¬ ((6 : Int) - 1 ≥ max 1 (10 - 5 + 1)) :=
  ⟨rfl, rfl, by decide⟩

end Yeet.Catch
