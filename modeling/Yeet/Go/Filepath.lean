import Yeet.Go.Strings

/-! Go's `path/filepath` on Unix: `Clean` and `Join`, which the daemon uses to place every
service directory. `Clean` works on the `/`-separated elements: it drops empty and `.`
elements, lets `..` remove the element before it, and drops `..` at the root. A path with
no `..` element joined below a directory stays below it (`joinBelow`). -/
namespace Yeet.Filepath

def cleanElems (rooted : Bool) : List String → List String → List String
  | kept, [] => kept
  | kept, elem :: rest =>
      if elem = "" ∨ elem = "." then cleanElems rooted kept rest
      else if elem = ".." then
        match kept with
        | top :: below =>
            if top = ".." then cleanElems rooted (".." :: kept) rest
            else cleanElems rooted below rest
        | [] => if rooted then cleanElems rooted [] rest else cleanElems rooted [".."] rest
      else cleanElems rooted (elem :: kept) rest

/-- `filepath.Clean(p)`. -/
def clean (p : String) : String :=
  let rooted := Strings.hasPrefix p "/"
  let body := "/".intercalate (cleanElems rooted [] (Strings.split p '/')).reverse
  if rooted then "/" ++ body else if body = "" then "." else body

/-- `filepath.Join(elems...)`: the non-empty elements joined by `/`, then cleaned. -/
def join (elems : List String) : String :=
  match elems.filter (· ≠ "") with
  | [] => ""
  | kept => clean ("/".intercalate kept)

/-- `filepath.Base(p)`: the last element, after trailing slashes are removed. -/
def base (p : String) : String :=
  if p = "" then "." else
  match (p.toList.reverse.dropWhile (· = '/')).reverse with
  | [] => "/"
  | trimmed => ⟨(trimmed.reverse.takeWhile (· ≠ '/')).reverse⟩

def named (elem : String) : Bool := elem != "" && elem != "."

theorem cleanElemsAppend (rooted : Bool) (kept first second : List String) :
    cleanElems rooted kept (first ++ second) = cleanElems rooted (cleanElems rooted kept first) second := by
  induction kept, first using cleanElems.induct rooted <;> simp_all [cleanElems]

theorem cleanElemsNamed (rooted : Bool) (kept elems : List String) (noParent : ".." ∉ elems) :
    cleanElems rooted kept elems = (elems.filter named).reverse ++ kept := by
  induction elems generalizing kept with
  | nil => rfl
  | cons elem rest ih =>
    have notParent : elem ≠ ".." := fun h => noParent (h ▸ List.mem_cons_self _ _)
    have restFree : ".." ∉ rest := fun h => noParent (List.mem_cons_of_mem _ h)
    by_cases skipped : elem = "" ∨ elem = "."
    · have : named elem = false := by rcases skipped with rfl | rfl <;> rfl
      simp [cleanElems, skipped, ih _ restFree, this]
    · have : named elem = true := by simpa [named, not_or] using skipped
      simp [cleanElems, skipped, notParent, ih _ restFree, this]

theorem memCleanElems {rooted : Bool} {kept elems : List String} {e : String}
    (mem : e ∈ cleanElems rooted kept elems) :
    e ∈ kept ∨ e ∈ elems ∧ named e = true ∧ (rooted = true → e ≠ "..") := by
  induction elems generalizing kept with
  | nil => exact .inl mem
  | cons elem rest ih =>
    have fromRest : e ∈ rest ∧ named e = true ∧ (rooted = true → e ≠ "..") →
        e ∈ elem :: rest ∧ named e = true ∧ (rooted = true → e ≠ "..") :=
      fun ⟨inRest, kept⟩ => ⟨List.mem_cons_of_mem elem inRest, kept⟩
    unfold cleanElems at mem
    by_cases skipped : elem = "" ∨ elem = "."
    · rw [if_pos skipped] at mem
      exact (ih mem).imp_right fromRest
    rw [if_neg skipped] at mem
    by_cases parent : elem = ".."
    · rw [if_pos parent] at mem
      cases kept with
      | cons top below =>
        dsimp only at mem
        by_cases topParent : top = ".."
        · rw [if_pos topParent] at mem
          rcases ih mem with inKept | later
          · rcases List.mem_cons.mp inKept with rfl | inKept
            · exact .inl (topParent ▸ List.mem_cons_self _ _)
            · exact .inl inKept
          · exact .inr (fromRest later)
        · rw [if_neg topParent] at mem
          exact (ih mem).imp (List.mem_cons_of_mem top) fromRest
      | nil =>
        cases rooted <;> simp only [Bool.false_eq_true, if_false, if_true] at mem
        · rcases ih mem with inKept | later
          · obtain rfl := List.mem_singleton.mp inKept
            exact .inr ⟨parent ▸ List.mem_cons_self _ _, rfl, by simp⟩
          · exact .inr (fromRest later)
        · exact .inr (fromRest ((ih mem).resolve_left (List.not_mem_nil e)))
    · rw [if_neg parent] at mem
      rcases ih mem with inKept | later
      · rcases List.mem_cons.mp inKept with rfl | inKept
        · simp only [not_or] at skipped
          exact .inr ⟨List.mem_cons_self _ _, by simp [named, skipped.1, skipped.2], fun _ => parent⟩
        · exact .inl inKept
      · exact .inr (fromRest later)

theorem cleanRootedShape {p : String} (rooted : Strings.hasPrefix p "/" = true) :
    ∃ elems, clean p = "/" ++ "/".intercalate elems ∧
      ∀ e ∈ elems, named e = true ∧ e ≠ ".." ∧ '/' ∉ e.toList := by
  refine ⟨(cleanElems true [] (Strings.split p '/')).reverse, by simp [clean, rooted], fun e mem => ?_⟩
  rcases memCleanElems (List.mem_reverse.mp mem) with absent | ⟨inSplit, isNamed, notParent⟩
  · cases absent
  · exact ⟨isNamed, notParent rfl, Strings.memSplitPlain inSplit⟩

example : clean "/srv/a/../b//./c/" = "/srv/b/c" := by decide

theorem intercalateGoAppend (s t u : String) (l : List String) :
    String.intercalate.go (s ++ t) u l = s ++ String.intercalate.go t u l := by
  induction l generalizing t <;> simp [String.intercalate.go, String.append_assoc, *]

theorem intercalateConsCons (s t u : String) (l : List String) :
    s.intercalate (t :: u :: l) = t ++ s ++ s.intercalate (u :: l) := by
  simp [String.intercalate, String.intercalate.go, intercalateGoAppend]

theorem intercalateConsNeNil (s t : String) {l : List String} (nonEmpty : l ≠ []) :
    s.intercalate (t :: l) = t ++ s ++ s.intercalate l := by
  obtain ⟨u, l', rfl⟩ := List.exists_cons_of_ne_nil nonEmpty
  exact intercalateConsCons s t u l'

theorem intercalateAppend (s : String) {l m : List String} (hl : l ≠ []) (hm : m ≠ []) :
    s.intercalate (l ++ m) = s.intercalate l ++ s ++ s.intercalate m := by
  induction l with
  | nil => exact absurd rfl hl
  | cons hd tl ih =>
    rw [List.cons_append, intercalateConsNeNil s hd (by simp [hm])]
    by_cases empty : tl = []
    · subst empty; rfl
    · rw [ih empty, intercalateConsNeNil s hd empty]
      simp only [String.append_assoc]

theorem appendEqEmpty (a b : String) : a ++ b = "" ↔ a = "" ∧ b = "" := by
  constructor
  · intro h
    have := congrArg String.toList h
    simp at this
    exact ⟨String.ext this.1, String.ext this.2⟩
  · rintro ⟨rfl, rfl⟩
    rfl

theorem cleanNeEmpty (p : String) : clean p ≠ "" := by
  simp only [clean]
  split_ifs with rooted body
  · simp [appendEqEmpty]
  · decide
  · exact body

theorem joinNeEmpty {dir : String} (path : String) (dirNonEmpty : dir ≠ "") : join [dir, path] ≠ "" := by
  unfold join
  split
  · rename_i none
    simp [List.filter_eq_nil_iff, dirNonEmpty] at none
  · exact cleanNeEmpty _

def belowPath (elems : List String) : String := if elems = [] then "" else "/" ++ "/".intercalate elems

theorem joinPair {dir : String} (path : String) (dirNonEmpty : dir ≠ "") (pathNonEmpty : path ≠ "") :
    join [dir, path] = clean (dir ++ "/" ++ path) := by
  simp [join, dirNonEmpty, pathNonEmpty]
  rfl

example : join ["/srv/services/", "app/./data"] = "/srv/services/app/data" := by decide

theorem hasPrefixSlash {dir : String} (rest : String) (dirNonEmpty : dir ≠ "") :
    Strings.hasPrefix (dir ++ rest) "/" = Strings.hasPrefix dir "/" := by
  obtain ⟨c, cs, chars⟩ := List.exists_cons_of_ne_nil (fun h => dirNonEmpty (String.ext h))
  simp [Strings.hasPrefix, chars, List.isPrefixOf]

theorem splitSlash (a b : String) : Strings.split (a ++ "/" ++ b) '/' = Strings.split a '/' ++ Strings.split b '/' :=
  Strings.splitAppend a b '/'

theorem hasPrefixPlain {e : String} (plain : '/' ∉ e.toList) : Strings.hasPrefix e "/" = false := by
  unfold Strings.hasPrefix
  cases chars : e.toList with
  | nil => rfl
  | cons c cs =>
    have other : c ≠ '/' := fun same => plain (by rw [chars, same]; exact List.mem_cons_self _ _)
    simp [List.isPrefixOf, Ne.symm other]

theorem intercalateCons (e : String) (rest : List String) : ∃ t, "/".intercalate (e :: rest) = e ++ t := by
  by_cases empty : rest = []
  · exact ⟨"", by subst empty; exact (String.append_empty e).symm⟩
  · exact ⟨"/" ++ "/".intercalate rest, by rw [intercalateConsNeNil _ _ empty, String.append_assoc]⟩

theorem cleanUnrooted {p : String} (unrooted : Strings.hasPrefix p "/" = false) :
    Strings.hasPrefix (clean p) "/" = false := by
  simp only [clean, unrooted, Bool.false_eq_true, if_false]
  cases kept : (cleanElems false [] (Strings.split p '/')).reverse with
  | nil => decide
  | cons e rest =>
    obtain ⟨inSplit, isNamed, -⟩ := (memCleanElems (List.mem_reverse.mp (kept ▸ List.mem_cons_self e rest))).resolve_left
      (List.not_mem_nil e)
    have nonEmpty : e ≠ "" := by rintro rfl; exact absurd isNamed (by decide)
    obtain ⟨t, joined⟩ := intercalateCons e rest
    rw [joined, if_neg (by simp [appendEqEmpty, nonEmpty])]
    rw [hasPrefixSlash t nonEmpty, hasPrefixPlain (Strings.memSplitPlain inSplit)]

theorem splitIntercalate {elems : List String} (nonEmpty : elems ≠ []) (plain : ∀ e ∈ elems, '/' ∉ e.toList) :
    Strings.split ("/".intercalate elems) '/' = elems := by
  induction elems with
  | nil => exact absurd rfl nonEmpty
  | cons e rest ih =>
    have ePlain := plain e (List.mem_cons_self e rest)
    by_cases empty : rest = []
    · subst empty; exact Strings.splitAbsent ePlain
    · rw [intercalateConsNeNil _ _ empty, splitSlash, Strings.splitAbsent ePlain,
        ih empty fun x mem => plain x (List.mem_cons_of_mem e mem)]
      rfl

theorem baseBelow (dir : String) {name : String} (nonEmpty : name ≠ "") (plain : '/' ∉ name.toList) :
    base (dir ++ "/" ++ name) = name := by
  have nonNil : name.toList.reverse ≠ [] := by
    rw [Ne, List.reverse_eq_nil_iff]
    exact fun h => nonEmpty (String.ext h)
  obtain ⟨c, cs, last⟩ := List.exists_cons_of_ne_nil nonNil
  have other : c ≠ '/' := fun same => plain (List.mem_reverse.mp (last ▸ same ▸ List.mem_cons_self c cs))
  have chars : (dir ++ "/" ++ name).toList.reverse = c :: (cs ++ '/' :: dir.toList.reverse) := by
    rw [show (dir ++ "/" ++ name).toList = dir.toList ++ '/' :: name.toList by simp, List.reverse_append,
      List.reverse_cons, last]
    simp
  have kept : (cs ++ '/' :: dir.toList.reverse).takeWhile (· ≠ '/') = cs := by
    rw [List.takeWhile_append_of_pos, List.takeWhile_cons_of_neg (by simp), List.append_nil]
    · intro x mem
      have : x ∈ name.toList.reverse := last ▸ List.mem_cons_of_mem c mem
      exact decide_eq_true fun same => plain (List.mem_reverse.mp (same ▸ this))
  unfold base
  rw [if_neg (fun h => nonEmpty ((appendEqEmpty _ _).mp h).2), chars,
    List.dropWhile_cons_of_neg (by simpa using other)]
  split
  · rename_i none; simp at none
  · rw [List.reverse_reverse, List.takeWhile_cons_of_pos (by simpa using other), kept]
    exact String.ext (by rw [← last, List.reverse_reverse]; rfl)

example : base "/export/media/" = "media" := by decide

theorem cleanBelow {dir : String} (path : String) (dirNonEmpty : dir ≠ "") :
    clean (dir ++ "/" ++ path) =
      if Strings.hasPrefix dir "/" then "/" ++ "/".intercalate (cleanElems (Strings.hasPrefix dir "/")
        (cleanElems (Strings.hasPrefix dir "/") [] (Strings.split dir '/')) (Strings.split path '/')).reverse
      else if "/".intercalate (cleanElems (Strings.hasPrefix dir "/")
        (cleanElems (Strings.hasPrefix dir "/") [] (Strings.split dir '/')) (Strings.split path '/')).reverse = ""
      then "." else "/".intercalate (cleanElems (Strings.hasPrefix dir "/")
        (cleanElems (Strings.hasPrefix dir "/") [] (Strings.split dir '/')) (Strings.split path '/')).reverse := by
  simp only [clean, String.append_assoc, hasPrefixSlash _ dirNonEmpty, ← cleanElemsAppend]
  rw [← String.append_assoc, splitSlash]

theorem hasPrefixSlashEq {s : String} (slash : Strings.hasPrefix s "/" = true) : ∃ r, s = "/" ++ r := by
  obtain ⟨r, chars⟩ := List.isPrefixOf_iff_prefix.mp slash
  exact ⟨⟨r⟩, String.ext (by simpa using chars.symm)⟩

theorem splitBelow {sub : String} (rest : String) (subPlain : '/' ∉ sub.toList)
    (restSep : rest = "" ∨ ∃ r, rest = "/" ++ r) :
    ∃ below, Strings.split ("/" ++ sub ++ rest) '/' = "" :: sub :: below ∧
      below.filter named = (Strings.split rest '/').filter named ∧ ∀ x ∈ below, x ∈ Strings.split rest '/' := by
  have lead (t : String) : Strings.split ("/" ++ t) '/' = "" :: Strings.split t '/' := by
    simpa using splitSlash "" t
  rcases restSep with rfl | ⟨r, rfl⟩
  · refine ⟨[], ?_, rfl, fun _ absent => absurd absent (List.not_mem_nil _)⟩
    rw [String.append_empty, lead, Strings.splitAbsent subPlain]
  · refine ⟨Strings.split r '/', ?_, ?_, fun x mem => ?_⟩
    · rw [String.append_assoc, lead, ← String.append_assoc, splitSlash, Strings.splitAbsent subPlain]
      rfl
    · rw [lead]; rfl
    · rw [lead]; exact List.mem_cons_of_mem _ mem

theorem intercalateSnocNeEmpty (s : String) (elems : List String) {last : String} (nonEmpty : last ≠ "") :
    s.intercalate (elems ++ [last]) ≠ "" := by
  by_cases empty : elems = []
  · subst empty; exact nonEmpty
  · rw [intercalateAppend s empty (List.cons_ne_nil last [])]
    have single : s.intercalate [last] = last := rfl
    simp [appendEqEmpty, nonEmpty, single]

theorem intercalateBelow (elems : List String) (sub : String) (below : List String) :
    "/".intercalate (elems ++ sub :: below) = "/".intercalate (elems ++ [sub]) ++ belowPath below := by
  by_cases empty : below = []
  · subst empty; simp [belowPath]
  · rw [show elems ++ sub :: below = (elems ++ [sub]) ++ below by simp,
      intercalateAppend "/" (by simp) empty]
    simp [belowPath, empty, String.append_assoc]

theorem joinBelow {dir sub : String} (rest : String) (dirNonEmpty : dir ≠ "") (subNamed : named sub = true)
    (subNotParent : sub ≠ "..") (subPlain : '/' ∉ sub.toList)
    (restSep : rest = "" ∨ ∃ r, rest = "/" ++ r) (noParent : ".." ∉ Strings.split rest '/') :
    join [dir, "/" ++ sub ++ rest] = join [dir, sub] ++ belowPath ((Strings.split rest '/').filter named) := by
  have subNonEmpty : sub ≠ "" := by rintro rfl; exact absurd subNamed (by decide)
  obtain ⟨below, splitPath, namedBelow, inRest⟩ := splitBelow rest subPlain restSep
  have noParentPath : ".." ∉ "" :: sub :: below := by
    simp only [List.mem_cons, not_or]
    exact ⟨by decide, Ne.symm subNotParent, fun h => noParent (inRest _ h)⟩
  have pathNonEmpty : "/" ++ sub ++ rest ≠ "" := fun h =>
    absurd (congrArg String.toList h) (List.cons_ne_nil '/' (sub ++ rest).toList)
  rw [joinPair _ dirNonEmpty pathNonEmpty, joinPair _ dirNonEmpty subNonEmpty, cleanBelow _ dirNonEmpty,
    cleanBelow _ dirNonEmpty, splitPath, Strings.splitAbsent subPlain, cleanElemsNamed _ _ _ noParentPath,
    cleanElemsNamed _ _ [sub] (by simpa using Ne.symm subNotParent)]
  simp only [List.filter_cons, subNamed, namedBelow, if_true, show named "" = false from rfl, Bool.false_eq_true,
    if_false, List.filter_nil, List.reverse_append, List.reverse_reverse, List.reverse_cons, List.reverse_nil,
    List.nil_append, List.singleton_append, List.append_assoc]
  rw [intercalateBelow]
  have bodyNonEmpty := intercalateSnocNeEmpty "/"
    (cleanElems (Strings.hasPrefix dir "/") [] (Strings.split dir '/')).reverse subNonEmpty
  generalize Strings.hasPrefix dir "/" = rooted at bodyNonEmpty ⊢
  cases rooted <;> simp [appendEqEmpty, bodyNonEmpty, String.append_assoc]

end Yeet.Filepath
