import Lookup.Error.Basic
import Lookup.Log

/-!
# Resolvers

A resolver answers queries about the properties of a store, as texts or as typed values.

## Main definitions

* `Resolver`, `Resolver.build` — a store with a registry of converters
* `Resolver.get`, `Resolver.require` — a property as a text
* `Resolver.typed` — a property as a value of a type
-/

namespace Lookup

variable {ε : Type}

/-- A property store with a registry of converters. -/
structure Resolver (ε : Type) where
  store : Store
  registry : Registry ε

namespace Resolver

/-- The resolver of explicit settings over an environment, with further converters. -/
def build (zones : Time.ZoneDatabase) (environment settings : Store) (further : List (TypeKey × Converter ε)) :
    Except (Failure ε) (Resolver ε) :=
  match Registry.build zones further with
  | .error key => .error (.duplicate key)
  | .ok registry => .ok ⟨environment.merge settings, registry⟩

/-- The records that are logged about a new resolver: its properties in the order of their keys. -/
def records (resolver : Resolver ε) : List LogRecord :=
  resolver.store.toList.map fun e =>
    ⟨.debug, "autumnio.properties", "PropertyResolver: " ++ e.1 ++ " = " ++ e.2⟩

/-- The value of a property, or that of a default text where there is one and the property is not in
the store. -/
def get (resolver : Resolver ε) (key : String) (default? : Option String) :
    Except (Failure ε) (Option String) :=
  match default? with
  | none => (resolver.store.resolve key).mapError ResolveError.failure
  | some default => ((resolver.store.resolveOr key default).map some).mapError ResolveError.failure

/-- The value of a property that must be in the store. -/
def require (resolver : Resolver ε) (key : String) : Except (Failure ε) String :=
  (resolver.store.require key).mapError ResolveError.failure

/-- The value of a text as a type. -/
def convert (resolver : Resolver ε) (type : TypeKey) (text : String) : Except (Failure ε) Value :=
  (resolver.registry.convert type text).mapError ConvertError.failure

/-- The value of a property as a type, or `none` if it is not in the store. -/
def typed (resolver : Resolver ε) (key : String) (type : TypeKey) :
    Except (Failure ε) (Option Value) :=
  match resolver.get key none with
  | .error failure => .error failure
  | .ok none => .ok none
  | .ok (some text) => (resolver.convert type text).map some

end Resolver

end Lookup
