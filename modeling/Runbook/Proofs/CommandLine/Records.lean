import Runbook.CommandLine.Execute
import Runbook.Proofs.Json.Compact
import Runbook.Proofs.Json.Same
import Runbook.Proofs.Text.Lines

/-!
# Completions as JSON

* `sound_toJson`, `eq_of_same_toJson`: a completion, and each of its parts, is written as a value that is
  read back and that no other is written as. Forms that carry no name differ in the kind of value.
* `framed_reports`: completions that are reported one by one are lines, one for each.
* `json_reports_are_faithful`: the lines, and what is reported of all completions at once, are read back
  as the same values.
-/

namespace Runbook

open Json (Same Sound eq_of_same_ofInt eq_of_same_ofText eq_of_same_ofTexts)

/-! ## Values of one form -/

theorem Json.sound_ofTexts (texts : List String) : Sound (.ofTexts texts) := by
  refine .array fun item hitem => ?_
  obtain ⟨text, -, rfl⟩ := List.mem_map.mp hitem
  exact .string _

theorem Json.sound_ofInt (n : Int) : Sound (.ofInt n) := .number (isLiteral_toString n)

theorem Json.sound_ofMembers {members : List (String × Json)} (h : ∀ member ∈ members, Sound member.2) :
    Sound (.ofMembers members) := by
  refine .object fun member hmember => ?_
  obtain ⟨own, hown, rfl⟩ := List.mem_map.mp hmember
  exact h own hown

namespace Captured

theorem sound_toJson (captured : Captured) : Sound captured.toJson := by
  cases captured with
  | text text => exact .string _
  | bytes bytes =>
    refine .array fun item hitem => ?_
    obtain ⟨byte, -, rfl⟩ := List.mem_map.mp hitem
    exact Json.sound_ofInt _

theorem eq_of_same_byte {a b : UInt8} (h : Same (.ofInt a.toNat) (.ofInt b.toNat)) : a = b :=
  UInt8.toNat_inj.mp (Int.ofNat.inj (eq_of_same_ofInt h))

theorem eq_of_same_toJson {a b : Captured} (h : Same a.toJson b.toJson) : a = b := by
  cases a with
  | text a =>
    cases b with
    | text b => rw [eq_of_same_ofText h]
    | bytes b => cases h
  | bytes a =>
    cases b with
    | text b => cases h
    | bytes b => rw [Json.eq_of_sameItems_map eq_of_same_byte h.items]

end Captured

namespace Invocation

theorem sound_toJson (invocation : Invocation) : Sound invocation.toJson := by
  cases invocation with
  | argv words => exact Json.sound_ofTexts words
  | shell line => exact .string _

theorem eq_of_same_toJson {a b : Invocation} (h : Same a.toJson b.toJson) : a = b := by
  cases a with
  | argv a =>
    cases b with
    | argv b => rw [eq_of_same_ofTexts h]
    | shell b => cases h
  | shell a =>
    cases b with
    | argv b => cases h
    | shell b => rw [eq_of_same_ofText h]

end Invocation

namespace Completion

theorem sound_streamJson (stream : Option Captured) : Sound (streamJson stream) := by
  cases stream with
  | none => exact .null
  | some captured => exact captured.sound_toJson

theorem eq_of_same_streamJson {a b : Option Captured} (h : Same (streamJson a) (streamJson b)) :
    a = b := by
  cases a with
  | none =>
    cases b with
    | none => rfl
    | some b => cases b <;> cases h
  | some a =>
    cases b with
    | none => cases a <;> cases h
    | some b => rw [Captured.eq_of_same_toJson h]

theorem sound_processJson (process : Process) : Sound (processJson process) := by
  refine Json.sound_ofMembers ?_
  simp only [List.forall_mem_cons, List.not_mem_nil, false_implies, implies_true, and_true]
  exact ⟨process.invocation.sound_toJson, Json.sound_ofInt _, sound_streamJson _, sound_streamJson _⟩

theorem eq_of_same_processJson {a b : Process} (h : Same (processJson a) (processJson b)) : a = b := by
  have hunique : ["args", "returncode", "stdout", "stderr"].Nodup := by decide
  have hargs : Same a.invocation.toJson b.invocation.toJson := h.values hunique (.head _) (.head _)
  have hcode : Same (.ofInt a.code) (.ofInt b.code) :=
    h.values hunique (.tail _ (.head _)) (.tail _ (.head _))
  have hstdout : Same (streamJson a.stdout) (streamJson b.stdout) :=
    h.values hunique (.tail _ (.tail _ (.head _))) (.tail _ (.tail _ (.head _)))
  have hstderr : Same (streamJson a.stderr) (streamJson b.stderr) :=
    h.values hunique (.tail _ (.tail _ (.tail _ (.head _)))) (.tail _ (.tail _ (.tail _ (.head _))))
  cases a
  cases b
  obtain rfl := Invocation.eq_of_same_toJson hargs
  obtain rfl := eq_of_same_ofInt hcode
  obtain rfl := eq_of_same_streamJson hstdout
  obtain rfl := eq_of_same_streamJson hstderr
  rfl

/-- The name of the form of a completion. -/
def kind : Completion → String
  | status _ => "status"
  | output _ => "output"
  | completed _ => "completed"

/-- What is reported, without the name of its form. -/
def value : Completion → Json
  | status code => .ofInt code
  | output stdout => stdout.toJson
  | completed process => processJson process

theorem toJson_eq (completion : Completion) :
    completion.toJson = .ofMembers [("kind", .ofText completion.kind), ("value", completion.value)] := by
  cases completion <;> rfl

theorem sound_value (completion : Completion) : Sound completion.value := by
  cases completion with
  | status code => exact Json.sound_ofInt code
  | output stdout => exact stdout.sound_toJson
  | completed process => exact sound_processJson process

theorem sound_toJson (completion : Completion) : Sound completion.toJson := by
  rw [toJson_eq]
  refine Json.sound_ofMembers ?_
  simp only [List.forall_mem_cons, List.not_mem_nil, false_implies, implies_true, and_true]
  exact ⟨.string _, completion.sound_value⟩

/-- **A completion is told by its value.** -/
theorem eq_of_same_toJson {a b : Completion} (h : Same a.toJson b.toJson) : a = b := by
  have hunique : ["kind", "value"].Nodup := by decide
  rw [toJson_eq, toJson_eq] at h
  have hkind : a.kind = b.kind := eq_of_same_ofText (h.values hunique (.head _) (.head _))
  have hvalue : Same a.value b.value := h.values hunique (.tail _ (.head _)) (.tail _ (.head _))
  match a, b with
  | status a, status b => rw [eq_of_same_ofInt hvalue]
  | output a, output b => rw [Captured.eq_of_same_toJson hvalue]
  | completed a, completed b => rw [eq_of_same_processJson hvalue]
  | status _, output _ | status _, completed _ | output _, status _ | output _, completed _
  | completed _, status _ | completed _, output _ => simp [kind] at hkind

end Completion

/-! ## Bytes that are read -/

namespace CommandLine

/-- The value that bytes denote as a JSON text. -/
def valueOf? (bytes : Bytes) : Option Json := do Json.read? (← (text? bytes).toOption).toList

theorem valueOf?_utf8 (text : String) : valueOf? (utf8 text) = Json.read? text.toList := by
  rw [valueOf?, text?_eq_ok_iff.mpr rfl]
  rfl

/-- A value that is written on lines of its own is read back. -/
theorem valueOf?_pretty {value : Json} (h : Sound value) :
    valueOf? (utf8 (String.ofList (Json.pretty value) ++ "\n")) = some value := by
  rw [valueOf?_utf8, String.toList_append, String.toList_ofList]
  exact Json.read?_isText (Json.isText_pretty h (Json.gap_newline 0))

/-- A completion on one line. -/
def record (completion : Completion) : Bytes := utf8 (String.ofList (Json.compact completion.toJson))

theorem valueOf?_record (completion : Completion) :
    valueOf? (record completion) = some completion.toJson := by
  rw [record, valueOf?_utf8, String.toList_ofList]
  exact Json.read?_compact completion.sound_toJson

theorem framed_report (completion : Completion) :
    Framed (report true completion).out [record completion] := by
  refine framed_text ?_
  rw [String.toList_ofList]
  exact Json.newline_not_mem_compact completion.sound_toJson

theorem framed_reports (completions : List Completion) :
    Framed (Streams.join (completions.map (report true))).out (completions.map record) := by
  have hout : (Streams.join (completions.map (report true))).out =
      completions.flatMap fun completion => (report true completion).out := List.flatMap_map ..
  rw [hout, List.map_eq_flatMap]
  exact framed_flatMap fun completion _ => framed_report completion

theorem valueOf?_reportAll (completions : List Completion) :
    valueOf? (reportAll true completions).out =
      some (.array (completions.map Completion.toJson)) := by
  have hsound : Sound (.array (completions.map Completion.toJson)) := by
    refine .array fun item hitem => ?_
    obtain ⟨completion, -, rfl⟩ := List.mem_map.mp hitem
    exact completion.sound_toJson
  exact valueOf?_pretty hsound

/-- **JSON reports are faithful.** Completions that are reported one by one are as many lines of standard
output, each with a line feed behind it and none inside, and each line is read as the value of its
completion; what is reported of all of them at once is read as the array of the same values; and
completions whose values are the same, be it in another order of members, are equal. -/
theorem json_reports_are_faithful (completions : List Completion) :
    (∃ records, Framed (Streams.join (completions.map (report true))).out records ∧
      List.Forall₂ (fun record completion => valueOf? record = some completion.toJson)
        records completions) ∧
    (Streams.join (completions.map (report true))).err = [] ∧
    valueOf? (reportAll true completions).out =
      some (.array (completions.map Completion.toJson)) ∧
    (reportAll true completions).err = [] ∧
    ∀ a b : Completion, Same a.toJson b.toJson → a = b := by
  refine ⟨⟨completions.map record, framed_reports completions, ?_⟩, ?_,
    valueOf?_reportAll completions, rfl, fun _ _ => Completion.eq_of_same_toJson⟩
  · rw [List.forall₂_map_left_iff, List.forall₂_same]
    exact fun completion _ => valueOf?_record completion
  · refine List.flatMap_eq_nil_iff.mpr fun stream hstream => ?_
    obtain ⟨completion, -, rfl⟩ := List.mem_map.mp hstream
    rfl

end CommandLine

end Runbook
