import RouteTypes.Proofs.Contract.Pages
import RouteTypes.Proofs.Yaml.Json

/-!
# Contracts in both formats

A contract that is written in JSON is the same mapping under every hint at its format, where its
text is portable (`read_of_portable_json`). Beyond that the formats differ: for each rule that a
portable text obeys there is a text that breaks it and is not the same in both (`foreign_texts`).
-/

namespace RouteTypes.Contract

variable {text : String} {document : Value}

/-- A portable text that is a contract in JSON is the same contract under every hint. -/
theorem read_of_portable_json (success : read .json text = .ok document)
    (portable : Json.isPortable text.toList) (hint : Location.Format) :
    read hint text = .ok document := by
  obtain ⟨isJson, entries, rfl⟩ := gives_json.1 (read_eq_ok.1 success)
  refine read_eq_ok.2 ?_
  by_cases tried : hint = .yaml
  · subst tried
    exact gives_yaml.2 ⟨Yaml.read_of_portable isJson portable nofun, entries, rfl⟩
  · exact .json tried ⟨isJson, entries, rfl⟩

/-- A portable text with values of all kinds. -/
def portableText : String :=
  "\x7b\"a\" : [1, -2.5e-3, null,\n true], \"b\\u0041\": \x7b\"\": []\x7d, \"c\": \"\\\"\"\x7d\n"

/-- The document of `portableText`. -/
def portableDocument : Value :=
  .mapping [
    (.text "a", .list [.int 1, .scalar (.float (.ofDecimal true 25 (-4))), .null, .bool true]),
    (.text "bA", .mapping [(.text "", .list [])]),
    (.text "c", .text "\"")]

theorem read_of_portable_json_all :
    read .json portableText = .ok portableDocument ∧ Json.isPortable portableText.toList ∧
      read .yaml portableText = .ok portableDocument := by
  have given : read .json portableText = .ok portableDocument ∧
      Json.isPortable portableText.toList := by decide +kernel
  exact ⟨given.1, given.2, read_of_portable_json given.1 given.2 .yaml⟩

/-- The text is a contract in JSON, and another one or none in YAML. -/
def IsForeign (text : String) : Prop :=
  ∃ document, read .json text = .ok document ∧ read .yaml text ≠ .ok document

theorem isForeign_of_ne (isJson : (read .json text).isOk)
    (other : read .yaml text ≠ read .json text) : IsForeign text := by
  cases found : read .json text with
  | error =>
      rw [found] at isJson
      cases isJson
  | ok document => exact ⟨document, found, found ▸ other⟩

/-- Texts that break the rules for portable texts: numbers with an exponent but without fraction or
without a sign, a word for a number that is not finite, a tab between the parts, a name that is not
on one line with its colon, a character that is written as two halves, a line end that is folded and
one behind a space, and a character that is not allowed. -/
def foreignTexts : List String :=
  [exponentText, "\x7b\"a\": 1.5e3\x7d", "\x7b\"a\": NaN\x7d", "\x7b\"a\":\t1\x7d",
   "\x7b\"a\"\n: 1\x7d", "\x7b\"a\": \"\\ud83d\\ude00\"\x7d", "\x7b\"a\": \"\u0085\"\x7d",
   "\x7b\"a\": \" \u2028\"\x7d", "\x7b\"a\": \"\x7f\"\x7d"]

theorem foreign_texts : foreignTexts.Forall IsForeign := by
  have apart : ∀ text ∈ foreignTexts,
      (read .json text).isOk ∧ read .yaml text ≠ read .json text := by decide +kernel
  refine List.forall_iff_forall_mem.2 fun text member => ?_
  exact isForeign_of_ne (apart text member).1 (apart text member).2

end RouteTypes.Contract
