import Lookup.Placeholder
import Lookup.Property.Store

/-!
# Resolving properties

The value of a property is the text in the store, which may be a placeholder and then stands for the
value of another property. Resolving follows placeholders from text to text. It remembers the stored
keys that it has come through, so that a loop is noticed when it closes, and it expands a limited
number of placeholders. A property that is not in the store takes the default of the placeholder that
asks for it, and the default may be a placeholder in turn.

## Main definitions

* `ResolveError` — why a property has no value
* `Store.lookUp` — the value of a key, given how placeholders are expanded
* `Store.expandWithin` — the value of a placeholder within a number of expansions
* `Store.resolve`, `Store.resolveOr`, `Store.require` — the value of a key
-/

namespace Lookup

/-- Why a property has no value. -/
inductive ResolveError where
  /-- A placeholder without a key. -/
  | keyless (text : String)
  /-- A property that is asked for and is not in the store. -/
  | missing (key : String)
  /-- Properties that refer to each other in a loop, in the order of looking them up; the last one is
  the first one seen twice. -/
  | cycle (chain : List String)
  /-- More placeholders than are expanded. -/
  | depth (key : String) (limit : Nat)
  deriving DecidableEq, Repr

/-- The most placeholders that are expanded for one property. -/
def expansionLimit : Nat := 64

/-- How a placeholder is expanded after the stored keys of a chain have been looked up. -/
abbrev Expansion := List String → Placeholder → Except ResolveError String

namespace Store

/-- The value that a text stands for. -/
def evaluate (expand : Expansion) (chain : List String) (text : String) :
    Except ResolveError String :=
  match Placeholder.read text with
  | .literal => .ok text
  | .keyless => .error (.keyless text)
  | .placeholder p => expand chain p

/-- The value of a key, or `none` if it is not in the store. A key that is a placeholder is
expanded. -/
def lookUp (store : Store) (expand : Expansion) (chain : List String) (key : String) :
    Except ResolveError (Option String) :=
  match Placeholder.read key with
  | .keyless => .error (.keyless key)
  | .placeholder p => (expand chain p).map some
  | .literal =>
    -- A loop is noticed before it is known whether the key is in the store.
    if key ∈ chain then .error (.cycle (chain ++ [key]))
    else
      match store.get? key with
      | none => .ok none
      | some text => (evaluate expand (chain ++ [key]) text).map some

/-- The value of a placeholder, given how the placeholders that it leads to are expanded. -/
def answer (store : Store) (expand : Expansion) : Expansion := fun chain p =>
  match store.lookUp expand chain p.key with
  | .error error => .error error
  | .ok (some value) => .ok value
  | .ok none =>
    match p.default? with
    | some text => evaluate expand chain text
    | none => .error (.missing p.key)

/-- The value of a placeholder when `budget` more placeholders may be expanded, this one included. -/
def expandWithin (store : Store) : Nat → Expansion
  | 0 => fun _ p => .error (.depth p.key expansionLimit)
  | budget + 1 => store.answer (store.expandWithin budget)

/-- The value of a placeholder. -/
def expand (store : Store) : Expansion := store.expandWithin expansionLimit

/-- The value of a key, or `none` if it is not in the store. -/
def resolve (store : Store) (key : String) : Except ResolveError (Option String) :=
  store.lookUp store.expand [] key

/-- The value of a key, or that of a default text if it is not in the store. -/
def resolveOr (store : Store) (key default : String) : Except ResolveError String :=
  match store.resolve key with
  | .error error => .error error
  | .ok (some value) => .ok value
  | .ok none => evaluate store.expand [] default

/-- The value of a key that must be in the store. -/
def require (store : Store) (key : String) : Except ResolveError String :=
  match store.resolve key with
  | .error error => .error error
  | .ok (some value) => .ok value
  | .ok none => .error (.missing key)

end Store

end Lookup
