import Chip8.Proofs.Decoding
import Chip8.Proofs.HexText
import Chip8.Proofs.StepFault

/-!
# Assembly text

Without its commas the text of a decoded word is its mnemonic and the texts of its operands, with
blanks between these and none within. What the operands begin with tells apart the entries of one
mnemonic, and the texts of its operands tell the values of an entry's fields. So no two words have
one text, and the text at the program counter stands for the word that is there.
-/

namespace Chip8

/-! ### Lines -/

namespace Text

/-- A part of a line: it has no blank and no comma. -/
def Solid (part : List Char) : Prop := ' ' ∉ part ∧ ',' ∉ part

instance (part : List Char) : Decidable (Solid part) := inferInstanceAs (Decidable (_ ∧ _))

/-- What stands between the blanks of a line, without its commas. -/
def parts (line : String) : List (List Char) := (line.toList.filter (· != ',')).splitOn ' '

variable {part : List Char}

theorem solid_of_forall (hpart : ∀ c ∈ part, c ≠ ' ' ∧ c ≠ ',') : Solid part :=
  ⟨fun hblank => (hpart ' ' hblank).1 rfl, fun hcomma => (hpart ',' hcomma).2 rfl⟩

theorem Solid.filter_eq (hpart : Solid part) : part.filter (· != ',') = part := by
  rw [List.filter_eq_self]
  intro c hc
  exact bne_iff_ne.mpr fun hcomma => hpart.2 (hcomma ▸ hc)

theorem filter_intercalate {parts : List (List Char)} (hparts : ∀ part ∈ parts, Solid part) :
    ([',', ' '].intercalate parts).filter (· != ',') = [' '].intercalate parts := by
  induction parts with
  | nil => rfl
  | cons part rest ih =>
    obtain ⟨hpart, hrest⟩ := List.forall_mem_cons.mp hparts
    cases rest with
    | nil => simpa using hpart.filter_eq
    | cons next rest =>
      rw [List.intercalate_cons_cons, List.intercalate_cons_cons, List.filter_append,
        List.filter_append, hpart.filter_eq, ih hrest]
      rfl

section Parts

variable {first : String} (hfirst : Solid first.toList)
include hfirst

theorem parts_of_solid : parts first = [first.toList] := by
  have hblank : ∀ part ∈ [first.toList], ' ' ∉ part := List.forall_mem_singleton.mpr hfirst.1
  have hsplit := List.splitOn_intercalate ' ' hblank (List.cons_ne_nil _ _)
  rw [parts, hfirst.filter_eq]
  simpa using hsplit

theorem parts_append_intercalate {rest : List String} (hrest : ∀ part ∈ rest, Solid part.toList)
    (hne : rest ≠ []) :
    parts (first ++ " " ++ ", ".intercalate rest) = (first :: rest).map String.toList := by
  have hall : ∀ part ∈ (first :: rest).map String.toList, ' ' ∉ part :=
    List.forall_mem_map.mpr
      (List.forall_mem_cons.mpr ⟨hfirst.1, fun part hpart => (hrest part hpart).1⟩)
  have hcomma : ", ".toList = [',', ' '] := rfl
  have hline : (first ++ " " ++ ", ".intercalate rest).toList.filter (· != ',') =
      [' '].intercalate ((first :: rest).map String.toList) := by
    rw [String.toList_append, String.toList_append, String.toList_intercalate, hcomma,
      List.filter_append, List.filter_append, hfirst.filter_eq,
      filter_intercalate (List.forall_mem_map.mpr hrest), List.map_cons,
      List.intercalate_cons_of_ne_nil (by simpa using hne)]
    rfl
  rw [parts, hline, List.splitOn_intercalate ' ' hall (List.cons_ne_nil _ _)]

end Parts

theorem solid_hexUpper (n : Nat) : Solid (hexUpper n).toList := by
  refine solid_of_forall fun c hc => ?_
  rw [toList_hexUpper] at hc
  obtain ⟨digit, hdigit, rfl⟩ := List.mem_map.mp hc
  obtain ⟨d, hd, rfl⟩ := exists_digit_of_mem_hexDigits hdigit
  have hall : ∀ e ∈ List.range 16, e.digitChar.toUpper ≠ ' ' ∧ e.digitChar.toUpper ≠ ',' := by
    decide
  exact hall d (List.mem_range.mpr hd)

theorem solid_hexLiteral (width n : Nat) : Solid (hexLiteral width n).toList := by
  have hall : ∀ e ∈ List.range 16, e.digitChar ≠ ' ' ∧ e.digitChar ≠ ',' := by decide
  refine solid_of_forall fun c hc => ?_
  rw [toList_hexLiteral, List.leftpad, List.mem_cons, List.mem_cons, List.mem_append] at hc
  obtain rfl | rfl | hzero | hdigit := hc
  · decide
  · decide
  · obtain ⟨-, rfl⟩ := List.mem_replicate.mp hzero
    decide
  · obtain ⟨d, hd, rfl⟩ := exists_digit_of_mem_hexDigits hdigit
    exact hall d (List.mem_range.mpr hd)

theorem toList_toString (n : Nat) : (toString n).toList = Nat.toDigits 10 n := Nat.toList_repr

theorem toString_injective : Function.Injective (toString : Nat → String) := by
  intro m n htext
  have hdigits : Nat.toDigits 10 m = Nat.toDigits 10 n := by
    rw [← toList_toString, htext, toList_toString]
  calc m = Nat.ofDigitChars 10 (Nat.toDigits 10 m) 0 := Nat.ofDigitChars_ten_toDigits.symm
    _ = Nat.ofDigitChars 10 (Nat.toDigits 10 n) 0 := by rw [hdigits]
    _ = n := Nat.ofDigitChars_ten_toDigits

theorem solid_toString (n : Nat) : Solid (toString n).toList := by
  refine solid_of_forall fun c hc => ?_
  rw [toList_toString] at hc
  have hdigit : c.isDigit = true := Nat.isDigit_of_mem_toDigits (by decide) (by decide) hc
  constructor <;> rintro rfl <;> contradiction

end Text

/-! ### Operands -/

namespace Operand

variable {operand : Operand} {a b : UInt16}

/-- A fixed operand is one part of a line. -/
def Solid : Operand → Prop
  | fixed name => Text.Solid name.toList
  | _ => True

instance : DecidablePred Solid
  | fixed name => inferInstanceAs (Decidable (Text.Solid name.toList))
  | register _ | address | byte | nibble => inferInstanceAs (Decidable True)

theorem Solid.text (hsolid : operand.Solid) (word : UInt16) :
    Text.Solid (operand.text word).toList := by
  cases operand with
  | fixed name => exact hsolid
  | register field =>
    obtain ⟨hblank, hcomma⟩ := Text.solid_hexUpper (field.extract word).toNat
    rw [Operand.text, String.toList_append]
    exact ⟨by simpa using hblank, by simpa using hcomma⟩
  | address => exact Text.solid_hexLiteral _ _
  | byte => exact Text.solid_hexLiteral _ _
  | nibble => exact Text.solid_toString _

/-- The first character of a part, where all digits count as zero. -/
def opening (part : List Char) : Char :=
  match part with
  | [] => ' '
  | c :: _ => if c.isDigit then '0' else c

/-- What the text of an operand begins with, for whatever word. -/
def initial : Operand → Char
  | fixed name => opening name.toList
  | register _ => 'V'
  | address | byte | nibble => '0'

theorem opening_text (operand : Operand) (word : UInt16) :
    opening (operand.text word).toList = operand.initial := by
  cases operand with
  | fixed name => rfl
  | register field =>
    rw [text, String.toList_append]
    rfl
  | address | byte =>
    rw [text, Text.toList_hexLiteral]
    rfl
  | nibble =>
    rw [text, Text.toList_toString]
    generalize (Field.nibble.extract word).toNat = n
    cases hdigits : Nat.toDigits 10 n with
    | nil => exact absurd hdigits Nat.toDigits_ne_nil
    | cons c rest =>
      have hmem : c ∈ Nat.toDigits 10 n := by
        rw [hdigits]
        exact List.mem_cons_self
      exact if_pos (Nat.isDigit_of_mem_toDigits (by decide) (by decide) hmem)

/-- The text of an operand tells the value of its field. -/
theorem extract_eq_of_text_eq {field : Field} (hfield : operand.field? = some field)
    (htext : operand.text a = operand.text b) : field.extract a = field.extract b := by
  apply UInt16.toNat_inj.mp
  cases operand with
  | fixed name => contradiction
  | register place =>
    obtain rfl := Option.some.inj hfield
    rw [text, text, String.append_right_inj] at htext
    exact Text.hexUpper_injective htext
  | address | byte =>
    obtain rfl := Option.some.inj hfield
    exact Text.hexLiteral_injective _ htext
  | nibble =>
    obtain rfl := Option.some.inj hfield
    exact Text.toString_injective htext

end Operand

/-! ### Decoded words -/

namespace Entry

variable {entry other : Entry}

theorem solid_of_mem_table (hentry : entry ∈ table) :
    Text.Solid entry.mnemonic.toList ∧ ∀ operand ∈ entry.operands, operand.Solid := by
  revert entry
  decide

/-- No two entries of one mnemonic have operands that begin alike. -/
theorem eq_of_opens_alike (hentry : entry ∈ table) (hother : other ∈ table)
    (hmnemonic : entry.mnemonic = other.mnemonic)
    (hinitials : entry.operands.map Operand.initial = other.operands.map Operand.initial) :
    entry = other := by
  have hexclusive : ∀ a ∈ table, ∀ b ∈ table, a.mnemonic = b.mnemonic →
      a.operands.map Operand.initial = b.operands.map Operand.initial → a = b := by decide
  exact hexclusive entry hentry other hother hmnemonic hinitials

end Entry

namespace Decoded

variable {decoded other : Decoded}

/-- The text of a decoded word is read part by part. -/
theorem parts_text (hentry : decoded.entry ∈ table) :
    Text.parts decoded.text =
      (decoded.entry.mnemonic :: decoded.entry.operands.map (·.text decoded.word)).map
        String.toList := by
  obtain ⟨hmnemonic, hsolid⟩ := Entry.solid_of_mem_table hentry
  have hoperands : ∀ part ∈ decoded.entry.operands.map (·.text decoded.word),
      Text.Solid part.toList :=
    List.forall_mem_map.mpr fun operand hoperand => (hsolid operand hoperand).text decoded.word
  rw [text]
  split
  · rename_i hnone
    rw [hnone]
    exact Text.parts_of_solid hmnemonic
  · rename_i hsome
    exact Text.parts_append_intercalate hmnemonic hoperands (by simpa using hsome)

theorem word_eq_of_text_eq (hentry : decoded.entry ∈ table) (hother : other.entry ∈ table)
    (haccepts : decoded.entry.accepts decoded.word) (hagain : other.entry.accepts other.word)
    (htext : decoded.text = other.text) : decoded.word = other.word := by
  have hparts := congrArg Text.parts htext
  rw [parts_text hentry, parts_text hother,
    (List.map_injective_iff.mpr fun _ _ => String.toList_inj.mp).eq_iff, List.cons.injEq] at hparts
  obtain ⟨hmnemonic, hoperands⟩ := hparts
  have hinitials : decoded.entry.operands.map Operand.initial =
      other.entry.operands.map Operand.initial := by
    have hopenings := congrArg (List.map fun part : String => Operand.opening part.toList) hoperands
    simpa [Function.comp_def, Operand.opening_text] using hopenings
  have heq : decoded.entry = other.entry :=
    Entry.eq_of_opens_alike hentry hother hmnemonic hinitials
  rw [← heq, List.map_inj_left] at hoperands
  have hvalues : decoded.entry.fields.map (·.extract decoded.word) =
      decoded.entry.fields.map (·.extract other.word) := by
    rw [List.map_inj_left]
    intro field hfield
    obtain ⟨operand, hoperand, hplace⟩ := List.mem_filterMap.mp hfield
    exact Operand.extract_eq_of_text_eq hplace (hoperands operand hoperand)
  have hcomplete := Entry.complete_of_mem_table hentry
  rw [← hcomplete.assemble_extract haccepts, hvalues,
    hcomplete.assemble_extract (heq ▸ hagain)]

end Decoded

theorem eq_of_disassemble_eq {a b : UInt16} {line : String} (ha : disassemble a = some line)
    (hb : disassemble b = some line) : a = b := by
  obtain ⟨decoded, hdecode, hline⟩ := Option.map_eq_some_iff.mp ha
  obtain ⟨other, hagain, hsame⟩ := Option.map_eq_some_iff.mp hb
  obtain ⟨hentry, haccepts, rfl⟩ := decode_eq_some_iff.mp hdecode
  obtain ⟨hother, haccepts', rfl⟩ := decode_eq_some_iff.mp hagain
  exact Decoded.word_eq_of_text_eq hentry hother haccepts haccepts' (hline.trans hsame.symm)

/-! ### The line at the program counter -/

namespace Machine

/-- What a debugger shows of the instruction at the program counter. -/
def listing? (machine : Machine) : Option String := machine.current?.map Decoded.text

variable {machine : Machine} {line : String}

theorem listing?_eq (machine : Machine) :
    machine.listing? = machine.fetch.toOption.bind disassemble := by
  rw [listing?, current?]
  cases machine.fetch <;> rfl

theorem listing?_eq_some_iff :
    machine.listing? = some line ↔ ∃ word, machine.Fetches word ∧ disassemble word = some line := by
  rw [listing?_eq, Option.bind_eq_some_iff]
  refine exists_congr fun word => and_congr_left fun _ => ?_
  rw [← fetch_eq_ok_iff]
  cases machine.fetch <;> simp [Except.toOption]

theorem listing?_of_fetches {word : UInt16} (hword : machine.Fetches word) :
    machine.listing? = disassemble word := by
  rw [listing?_eq, fetch_eq_ok_iff.mpr hword]
  rfl

/-- A running machine shows nothing exactly where its next step fails before it has an instruction
to execute. -/
theorem listing?_eq_none_iff (hrunning : machine.mode = .running) :
    machine.listing? = none ↔
      (∃ address, machine.fetch = .error (.outOfBounds address) ∧
        machine.step.2 = some (.outOfBounds address)) ∨
      ∃ word address, machine.step.2 = some (.unknownOpcode word address) := by
  obtain hend | ⟨word, hword, hunknown⟩ | ⟨instruction, hperforms⟩ := machine.fetch_cases
  · have hfetch := fetch_eq_error_iff.mpr ⟨hend, rfl⟩
    refine iff_of_true ?_ (.inl ⟨_, hfetch, ?_⟩)
    · rw [listing?_eq, hfetch]
      rfl
    · rw [step_of_pc_past_end hrunning hend]
  · refine iff_of_true ?_ (.inr ⟨word, machine.registers.pc, ?_⟩)
    · rw [listing?_of_fetches hword, disassemble, decode_eq_none_iff.mpr hunknown]
      rfl
    · rw [step_of_unknown hrunning hword hunknown]
  · obtain ⟨word, hword, hdecode⟩ := id hperforms
    obtain ⟨decoded, hdecoded, -⟩ := Option.map_eq_some_iff.mp hdecode
    refine iff_of_false ?_ ?_
    · rw [listing?_of_fetches hword, disassemble, hdecoded]
      exact Option.some_ne_none _
    · rintro (⟨address, hfetch, -⟩ | ⟨unknown, address, hstep⟩)
      · rw [fetch_eq_ok_iff.mpr hword] at hfetch
        contradiction
      · cases (step_snd_eq_some_iff hrunning).mp hstep with
        | unknown hword' hunknown => exact not_performs_of_unknown hword' hunknown hperforms
        | execute _ hfault => cases hfault

/-- **Assembly text.** No two words have the same text, so the text that is shown at the program
counter stands for the word that is there and for no other. Nothing is shown exactly if the machine,
when it runs, fails to fetch a word or finds that the word is unknown. -/
theorem disassembly_is_unambiguous :
    (∀ (a b : UInt16) (line : String),
        disassemble a = some line → disassemble b = some line → a = b) ∧
      (∀ (machine : Machine) (line : String), machine.listing? = some line →
        ∃ word, machine.Fetches word ∧ ∀ other, disassemble other = some line ↔ other = word) ∧
      ∀ machine : Machine,
        let runner := { machine with mode := .running }
        machine.listing? = none ↔
          (∃ address, runner.fetch = .error (.outOfBounds address) ∧
            runner.step.2 = some (.outOfBounds address)) ∨
          ∃ word address, runner.step.2 = some (.unknownOpcode word address) := by
  refine ⟨fun a b line => eq_of_disassemble_eq, ?_, ?_⟩
  · intro machine line hline
    obtain ⟨word, hword, htext⟩ := listing?_eq_some_iff.mp hline
    refine ⟨word, hword, fun other => ⟨fun hother => eq_of_disassemble_eq hother htext, ?_⟩⟩
    rintro rfl
    exact htext
  · intro machine runner
    have hlisting : machine.listing? = runner.listing? := rfl
    rw [hlisting]
    exact listing?_eq_none_iff rfl

end Machine

example : disassemble 0xD12F = some "DRW V1, V2, 15" := by decide

end Chip8
