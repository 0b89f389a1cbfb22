import GateOperator.Data.Fields

/-!
Feature gates and the snapshots that record, for one release, which gates are on and which are off.
-/

namespace GateOperator

/-- The lowest version of a component with which a gate may be on. -/
structure Requirement where
  component : String
  version : String
deriving DecidableEq, Inhabited

/-- A feature gate with the component versions it depends on. -/
structure Gate where
  name : String
  requirements : List Requirement := []
deriving DecidableEq, Inhabited

/-- The gates of one release: each known gate is on or off. -/
structure Snapshot where
  version : String
  enabled : List Gate
  disabled : List Gate
deriving DecidableEq, Inhabited

/-- Gates that an administrator forces on or off. -/
structure CustomSelection where
  enabled : List String
  disabled : List String
deriving DecidableEq, Inhabited

namespace Requirement

def read? (dialect : Dialect) (v : Value) : Option Requirement := do
  let fields ← Fields.of? dialect ["component", "version"] v
  return ⟨← fields.required "component" Value.text?, ← fields.required "version" Value.text?⟩

def write (r : Requirement) : Value := .ofFields [
  Value.always "component" (.text r.component),
  Value.always "version" (.text r.version)]

end Requirement

namespace Gate

/-- A gate without requirements. -/
def named (name : String) : Gate := ⟨name, []⟩

/-- The gate with one more requirement, after those it has. -/
def requiring (g : Gate) (component version : String) : Gate :=
  { g with requirements := g.requirements ++ [⟨component, version⟩] }

def read? (dialect : Dialect) (v : Value) : Option Gate := do
  let fields ← Fields.of? dialect ["name", "requiredMinimumComponentVersions"] v
  return {
    name := ← fields.required "name" Value.text?
    requirements := ← fields.withDefault "requiredMinimumComponentVersions" []
      (Value.listOf? dialect (Requirement.read? dialect)) }

/-- A gate as a value; no requirements are not written. -/
def write (g : Gate) : Value := .ofFields [
  Value.always "name" (.text g.name),
  Value.whenSomeItems "requiredMinimumComponentVersions" Requirement.write g.requirements]

end Gate

namespace Snapshot

def read? (dialect : Dialect) (v : Value) : Option Snapshot := do
  let fields ← Fields.of? dialect ["version", "enabled", "disabled"] v
  return {
    version := ← fields.required "version" Value.text?
    enabled := ← fields.withDefault "enabled" [] (Value.listOf? dialect (Gate.read? dialect))
    disabled := ← fields.withDefault "disabled" [] (Value.listOf? dialect (Gate.read? dialect)) }

def write (s : Snapshot) : Value := .ofFields [
  Value.always "version" (.text s.version),
  Value.always "enabled" (.list (s.enabled.map Gate.write)),
  Value.always "disabled" (.list (s.disabled.map Gate.write))]

end Snapshot

namespace CustomSelection

def read? (dialect : Dialect) (v : Value) : Option CustomSelection := do
  let fields ← Fields.of? dialect ["enabled", "disabled"] v
  return {
    enabled := ← fields.withDefault "enabled" [] (Value.listOf? dialect Value.text?)
    disabled := ← fields.withDefault "disabled" [] (Value.listOf? dialect Value.text?) }

def write (c : CustomSelection) : Value := .ofFields [
  Value.always "enabled" (.list (c.enabled.map .text)),
  Value.always "disabled" (.list (c.disabled.map .text))]

end CustomSelection

end GateOperator
