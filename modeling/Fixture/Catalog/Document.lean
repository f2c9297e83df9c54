import Fixture.Definition
import Fixture.Json.Record
import Fixture.Settings
import Fixture.Ty.Parser

/-!
# Catalogue documents

The form in which definitions are written down: type entries with texts for types, and settings if
the document brings any. A document is read from JSON by one description of each of its records.
-/

namespace Fixture

/-- A property as written. An accessor may be given, be given as absent, or be left to the custom of
beans. -/
structure PropertyEntry where
  name : String := ""
  ty : String := ""
  reader : Option (Option String) := none
  writer : Option (Option String) := none

/-- A type as written: with members it is an enumeration, otherwise a composite. -/
structure TypeEntry where
  module : String := ""
  name : String := ""
  params : List String := []
  properties : Option (List PropertyEntry) := none
  members : Option (List String) := none

structure Document where
  settings : Option Settings := none
  types : List TypeEntry := []

open Json Reader

namespace Settings

def record : Record Settings where
  title := "struct Settings"
  fields := [
    ⟨"seed", false, fun s => return { s with seed := ← orNull (word64 "u64") }⟩,
    ⟨"scope", false, fun s => return { s with scope := ← orNull string }⟩,
    ⟨"ignored_properties", false, fun s => return { s with ignored := ← list string }⟩,
    ⟨"max_depth", false, fun s => return { s with maxDepth := ← word64 "usize" }⟩]
  blank := {}

/-- Settings written on their own. -/
def ofJson (bytes : List UInt8) : Except Json.Flaw Settings := record.read.run bytes

end Settings

namespace PropertyEntry

def record : Record PropertyEntry where
  title := "struct PropertyEntry"
  fields := [
    ⟨"name", true, fun p => return { p with name := ← string }⟩,
    ⟨"type", true, fun p => return { p with ty := ← string }⟩,
    ⟨"reader", false, fun p => return { p with reader := some (← orNull string) }⟩,
    ⟨"writer", false, fun p => return { p with writer := some (← orNull string) }⟩]
  blank := {}

end PropertyEntry

namespace TypeEntry

def record : Record TypeEntry where
  title := "struct TypeEntry"
  fields := [
    ⟨"module", false, fun t => return { t with module := ← string }⟩,
    ⟨"name", true, fun t => return { t with name := ← string }⟩,
    ⟨"params", false, fun t => return { t with params := ← list string }⟩,
    ⟨"properties", false, fun t =>
      return { t with properties := ← orNull (list PropertyEntry.record.read) }⟩,
    ⟨"enum", false, fun t => return { t with members := ← orNull (list string) }⟩]
  blank := {}

end TypeEntry

namespace Document

def record : Record Document where
  title := "struct CatalogFile"
  fields := [
    ⟨"settings", false, fun d => return { d with settings := ← orNull Settings.record.read }⟩,
    ⟨"types", true, fun d => return { d with types := ← list TypeEntry.record.read }⟩]
  blank := {}

def ofJson (bytes : List UInt8) : Except Json.Flaw Document := record.read.run bytes

end Document

end Fixture
