import ResilientProxy.Logging.Config
import ResilientProxy.Proofs.Written

/-!
# The written form of a logging configuration

Reading the text of a logging configuration gives that configuration, whatever characters its
levels and the names of its components are made of. The entries of the map are read one after the
other into a map that sorts them, and since they were written in their order none of them is lost
or moved.
-/

namespace ResilientProxy.Logging.Config

open Json

/-- The entries of a map as the members of an object. -/
def entryMembers (entries : List (String × String)) : List (String × List Char) :=
  entries.map fun e => (e.1, writeText e.2)

theorem takes_component (acc : Components) (e : String × String) :
    Takes putComponent acc (e.1, writeText e.2) (acc.insert e.1 e.2) := by
  intro c rest hc
  have hcolon : skipColon (':' :: writeText e.2 ++ c :: rest) = .ok (writeText e.2 ++ c :: rest) :=
    by simp [skipColon, skipBlanks, Json.isBlank]
  have hread := readsBack_text e.2 c rest hc
  simp only [putComponent, hcolon, hread]

theorem takesAll_components (acc : Components) (entries : List (String × String)) :
    TakesAll putComponent acc (entryMembers entries)
      (entries.foldl (fun c e => c.insert e.1 e.2) acc) := by
  induction entries generalizing acc with
  | nil => exact .nil
  | cons e entries ih => exact .cons (takes_component acc e) (ih _)

theorem readsBack_components (m : Components) :
    ReadsBack readComponents (writeObject (entryMembers m.entries)) m := by
  intro c rest _
  obtain ⟨cs, hcs, hread⟩ := (takesAll_components .empty m.entries).readMembers
  -- put in one after the other in their order, the entries make up the same map again
  have hsame : m.entries.foldl (fun c e => c.insert e.1 e.2) .empty = m :=
    Components.ofList_of_perm (.refl _)
  have hall := hread (c :: rest)
  rw [hsame] at hall
  rw [hcs, List.cons_append]
  simp [readComponents, skipBlanks, Json.isBlank, hall]

/-- The members that are written for a configuration. -/
def members (c : Config) : List (String × List Char) :=
  [("level", writeText c.level), ("components", writeObject (entryMembers c.components.entries)),
    ("json", writeBoolean c.json)]

theorem takesAll_members (c : Config) :
    TakesAll recordType.putMember ([], recordType.default) c.members
      (["json", "components", "level"], c) := by
  refine .cons (RecordType.takes_field rfl rfl (readsBack_text _)) ?_
  refine .cons (RecordType.takes_field rfl rfl (readsBack_components _)) ?_
  exact .cons (RecordType.takes_field rfl rfl (readsBack_boolean _)) .nil

/-- A logging configuration is read back from its written form, character for character. -/
theorem ofJson_toJson (c : Config) : ofJson c.toJson = .ok c := by
  have hparse : recordType.parse c.toJson = .ok c :=
    RecordType.parse_writeObject (takesAll_members c)
  rw [ofJson, hparse]

/-- What is written, with characters that may not stand in a string as they are. -/
example : (⟨"warn", .ofList [("b\"", "\\"), ("a\n", "\x01😀")], true⟩ : Config).toJson =
    "\x7b\"level\":\"warn\",\"components\":\x7b\"a\\n\":\"\\u0001😀\",\"b\\\"\":\"\\\\\"\x7d," ++
      "\"json\":true\x7d" := by
  cbv

end ResilientProxy.Logging.Config
