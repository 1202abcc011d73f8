import Mathlib.Data.List.Basic

/-! Go's errors as `errors.Is` reads them: an error is its text and the sentinel errors
in its chain. `fmt.Errorf` with `%w` keeps the chain, with `%v` starts a new one. Only
sentinels compared by identity are modelled, not `errors.As` or custom `Is` methods. -/
namespace Yeet

/-- An error value: its text, and the sentinels `errors.Is` finds in its chain. -/
structure GoError where
  text : String
  sentinels : List String
  deriving DecidableEq, Repr

namespace GoError

/-- A sentinel, `errors.New(text)` stored in a package variable. -/
def sentinel (text : String) : GoError := ⟨text, [text]⟩

/-- `fmt.Errorf(pre + "%v", ...)`, or any error that wraps nothing. -/
def plain (text : String) : GoError := ⟨text, []⟩

/-- `fmt.Errorf(pre + "%w", e)`. -/
def wrap (pre : String) (e : GoError) : GoError := ⟨pre ++ e.text, e.sentinels⟩

/-- `errors.Is(e, target)` for the sentinel with the text `target`. -/
def is (e : GoError) (target : String) : Bool := e.sentinels.contains target

@[simp] theorem isSentinel (text target : String) : (sentinel text).is target = (target == text) := by
  simp only [is, sentinel, List.contains, List.elem]
  cases target == text <;> rfl

@[simp] theorem isPlain (text target : String) : (plain text).is target = false := rfl

@[simp] theorem isWrap (pre : String) (e : GoError) (target : String) : (wrap pre e).is target = e.is target :=
  rfl

end GoError

end Yeet
