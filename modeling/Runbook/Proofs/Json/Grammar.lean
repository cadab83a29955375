import Runbook.Proofs.Json.Literal

/-!
# The grammar of JSON

What a text spells, said without a reader: `IsText value text` if the text is the value with nothing but
blanks around it.

* `Spells` and its companions put values together from strings and numbers, with blanks at both sides of
  every part.
* `reads_spellings` reads what is spelled, whatever comes behind it, and `finds_spellings` finds that
  nothing else is read; both by induction on the fuel, of which a text takes at most as much as it is long.
* `read?_eq_some_iff`: the reader reads just the texts of the grammar, as what they spell. So a text spells
  one value at most, and texts of one value differ in blanks and in the spelling of strings only.
-/

namespace Runbook.Json

/-! ## The grammar -/

/-- Only blanks. -/
def Gap (text : List Char) : Prop := ∀ c ∈ text, isBlank c = true

mutual

/-- A value. -/
inductive Spells : Json → List Char → Prop
  | null : Spells .null ['n', 'u', 'l', 'l']
  | yes : Spells (.bool true) ['t', 'r', 'u', 'e']
  | no : Spells (.bool false) ['f', 'a', 'l', 's', 'e']
  | number {literal : String} (h : Numeral literal.toList) : Spells (.number literal) literal.toList
  | string {text : Option String} {token : List Char} (h : Quotation text token) : Spells (.string text) token
  | noItems {gap : List Char} (hgap : Gap gap) : Spells (.array []) ('[' :: (gap ++ [']']))
  | array {items : List Json} {body : List Char} (hbody : SpellsItems items body) :
    Spells (.array items) ('[' :: (body ++ [']']))
  | noMembers {gap : List Char} (hgap : Gap gap) : Spells (.object []) ('{' :: (gap ++ ['}']))
  | object {members : List (Option String × Json)} {body : List Char} (hbody : SpellsMembers members body) :
    Spells (.object members) ('{' :: (body ++ ['}']))

/-- A value with blanks around it. -/
inductive IsText : Json → List Char → Prop
  | padded {value : Json} {before text after : List Char} (hbefore : Gap before) (h : Spells value text)
    (hafter : Gap after) : IsText value (before ++ text ++ after)

/-- Items with commas between them. -/
inductive SpellsItems : List Json → List Char → Prop
  | last {item : Json} {text : List Char} (hitem : IsText item text) : SpellsItems [item] text
  | cons {item : Json} {items : List Json} {text rest : List Char} (hitem : IsText item text)
    (hitems : SpellsItems items rest) : SpellsItems (item :: items) (text ++ ',' :: rest)

/-- A name, a colon and a value. -/
inductive SpellsMember : Option String × Json → List Char → Prop
  | named {name : Option String} {value : Json} {before token between text : List Char}
    (hbefore : Gap before) (hname : Quotation name token) (hbetween : Gap between)
    (hvalue : IsText value text) :
    SpellsMember (name, value) (before ++ token ++ between ++ ':' :: text)

/-- Members with commas between them. -/
inductive SpellsMembers : List (Option String × Json) → List Char → Prop
  | last {member : Option String × Json} {text : List Char} (hmember : SpellsMember member text) :
    SpellsMembers [member] text
  | cons {member : Option String × Json} {members : List (Option String × Json)} {text rest : List Char}
    (hmember : SpellsMember member text) (hmembers : SpellsMembers members rest) :
    SpellsMembers (member :: members) (text ++ ',' :: rest)

end

/-! ## Blanks -/

theorem gap_nil : Gap [] := fun _ hc => nomatch hc

theorem skip_append {gap : List Char} (h : Gap gap) (text : List Char) :
    skip (gap ++ text) = skip text :=
  List.dropWhile_append_of_pos h

theorem skip_of_head {c : Char} (h : isBlank c = false) (more : List Char) :
    skip (c :: more) = c :: more :=
  List.dropWhile_cons_of_neg (by simp [h])

theorem skip_skip (text : List Char) : skip (skip text) = skip text :=
  List.dropWhile_idempotent isBlank text

/-- A text is what is skipped of it, and what is left. -/
theorem exists_gap (text : List Char) : ∃ gap, text = gap ++ skip text ∧ Gap gap :=
  ⟨text.takeWhile isBlank, List.takeWhile_append_dropWhile.symm, fun _ hc => List.mem_takeWhile_imp hc⟩

theorem value?_skip (fuel : Nat) (text : List Char) : value? fuel (skip text) = value? fuel text := by
  cases fuel with
  | zero => rfl
  | succ fuel => rw [value?, value?, skip_skip]

theorem value?_gap {gap : List Char} (h : Gap gap) (fuel : Nat) (text : List Char) :
    value? fuel (gap ++ text) = value? fuel text := by
  rw [← value?_skip, skip_append h, value?_skip]

theorem items?_skip (fuel : Nat) (text : List Char) : items? fuel (skip text) = items? fuel text := by
  cases fuel with
  | zero => rfl
  | succ fuel => rw [items?, items?, value?_skip]

theorem members?_skip (fuel : Nat) (text : List Char) :
    members? fuel (skip text) = members? fuel text := by
  cases fuel with
  | zero => rfl
  | succ fuel => rw [members?, members?, skip_skip]

theorem closes_blank {c : Char} (h : isBlank c = true) (rest : List Char) : Closes (c :: rest) := by
  refine closes_cons ?_ _
  simp only [isBlank, Bool.or_eq_true, beq_iff_eq] at h
  rcases h with ((rfl | rfl) | rfl) | rfl <;> decide

theorem closes_append {gap rest : List Char} (h : Gap gap) (hrest : Closes rest) : Closes (gap ++ rest) := by
  cases gap with
  | nil => exact hrest
  | cons c gap => exact closes_blank (h c List.mem_cons_self) _

/-! ## How values begin -/

theorem isBlank_of_isDigit {c : Char} (h : c = '-' ∨ c.isDigit = true) : isBlank c = false := by
  by_contra hblank
  simp only [isBlank, Bool.not_eq_false, Bool.or_eq_true, beq_iff_eq] at hblank
  rcases hblank with ((rfl | rfl) | rfl) | rfl <;> revert h <;> decide

theorem Quotation.head {text : Option String} {token : List Char} (h : Quotation text token) :
    ∃ more, token = '"' :: more := by
  cases h with
  | text _ _ => exact ⟨_, rfl⟩
  | half _ _ => exact ⟨_, rfl⟩

theorem Spells.head {value : Json} {text : List Char} (h : Spells value text) :
    ∃ c more, text = c :: more ∧ isBlank c = false ∧ c ≠ ']' := by
  cases h with
  | number h =>
    obtain ⟨c, more, htext, hc⟩ := h.head
    refine ⟨c, more, htext, isBlank_of_isDigit hc, ?_⟩
    rintro rfl
    revert hc
    decide
  | string h =>
    obtain ⟨more, hmore⟩ := h.head
    exact ⟨'"', more, hmore, rfl, by decide⟩
  | _ => exact ⟨_, _, rfl, rfl, by decide⟩

/-- Behind blanks, a value does not begin as the end of an array. -/
theorem IsText.head {value : Json} {text : List Char} (h : IsText value text) (rest : List Char) :
    ∃ c more, skip (text ++ rest) = c :: more ∧ c ≠ ']' := by
  obtain @⟨_, before, token, after, hbefore, hvalue, hafter⟩ := h
  obtain ⟨c, more, rfl, hblank, hc⟩ := hvalue.head
  refine ⟨c, more ++ after ++ rest, ?_, hc⟩
  have htext : before ++ c :: more ++ after ++ rest = before ++ c :: (more ++ after ++ rest) := by simp
  rw [htext, skip_append hbefore, skip_of_head hblank]

theorem SpellsItems.head {items : List Json} {text : List Char} (h : SpellsItems items text)
    (rest : List Char) : ∃ c more, skip (text ++ rest) = c :: more ∧ c ≠ ']' := by
  cases h with
  | last hitem => exact hitem.head rest
  | cons hitem _ =>
    rw [List.append_assoc]
    exact hitem.head _

theorem SpellsMember.head {member : Option String × Json} {text : List Char} (h : SpellsMember member text)
    (rest : List Char) : ∃ more, skip (text ++ rest) = '"' :: more := by
  obtain @⟨name, value, before, token, between, text, hbefore, hname, _, _⟩ := h
  obtain ⟨more, rfl⟩ := hname.head
  refine ⟨more ++ between ++ ':' :: text ++ rest, ?_⟩
  have htext : before ++ '"' :: more ++ between ++ ':' :: text ++ rest =
      before ++ '"' :: (more ++ between ++ ':' :: text ++ rest) := by simp
  rw [htext, skip_append hbefore]
  exact skip_of_head (by decide) _

theorem SpellsMembers.head {members : List (Option String × Json)} {text : List Char}
    (h : SpellsMembers members text) (rest : List Char) : ∃ more, skip (text ++ rest) = '"' :: more := by
  cases h with
  | last hmember => exact hmember.head rest
  | cons hmember _ =>
    rw [List.append_assoc]
    exact hmember.head _

/-! ## One step of the reader -/

section

variable {fuel : Nat} {rest : List Char}

theorem value?_number {literal text : List Char} (h : number? text = some (literal, rest)) :
    value? (fuel + 1) text = some (.number (String.ofList literal), rest) := by
  obtain ⟨htext, hliteral⟩ := numeral_number? h
  obtain ⟨c, more, rfl, hc⟩ := hliteral.head
  rw [List.cons_append] at htext
  subst htext
  have hother : ∀ d, d = 'n' ∨ d = 't' ∨ d = 'f' ∨ d = '"' ∨ d = '[' ∨ d = '{' → c ≠ d := by
    rintro d hd rfl
    rcases hd with rfl | rfl | rfl | rfl | rfl | rfl <;> revert hc <;> decide
  rw [value?, skip_of_head (isBlank_of_isDigit hc)]
  split
  all_goals try
    rename_i heq
    exact absurd (List.cons.inj heq).1 (hother _ (by decide))
  rw [h]
  rfl

theorem value?_quotes (fuel : Nat) (body : List Char) :
    value? (fuel + 1) ('"' :: body) = (string? body).map fun part => (.string part.1, part.2) := by
  rw [value?, skip_of_head (by decide)]
  rfl

theorem value?_bracket (fuel : Nat) (text : List Char) :
    value? (fuel + 1) ('[' :: text) =
      match skip text with
      | ']' :: rest => some (.array [], rest)
      | body => (items? fuel body).map fun part => (.array part.1, part.2) := by
  rw [value?, skip_of_head (by decide)]
  rfl

theorem value?_brace (fuel : Nat) (text : List Char) :
    value? (fuel + 1) ('{' :: text) =
      match skip text with
      | '}' :: rest => some (.object [], rest)
      | body => (members? fuel body).map fun part => (.object part.1, part.2) := by
  rw [value?, skip_of_head (by decide)]
  rfl

theorem value?_string {text : Option String} {token : List Char} (h : Quotation text token)
    (rest : List Char) : value? (fuel + 1) (token ++ rest) = some (.string text, rest) := by
  obtain ⟨body, hbody, hread⟩ := string?_quotation h rest
  rw [hbody, value?_quotes, hread]
  rfl

theorem value?_array {items : List Json} {text : List Char}
    (hopen : ∃ c more, skip text = c :: more ∧ c ≠ ']') (hread : items? fuel text = some (items, rest)) :
    value? (fuel + 1) ('[' :: text) = some (.array items, rest) := by
  obtain ⟨c, more, hskip, hc⟩ := hopen
  rw [value?_bracket]
  split
  · rename_i heq
    rw [hskip] at heq
    exact absurd (List.cons.inj heq).1 hc
  · rw [items?_skip, hread]
    rfl

theorem value?_object {members : List (Option String × Json)} {text : List Char}
    (hopen : ∃ more, skip text = '"' :: more) (hread : members? fuel text = some (members, rest)) :
    value? (fuel + 1) ('{' :: text) = some (.object members, rest) := by
  obtain ⟨more, hskip⟩ := hopen
  rw [value?_brace]
  split
  · rename_i heq
    rw [hskip] at heq
    exact absurd (List.cons.inj heq).1 (by decide)
  · rw [members?_skip, hread]
    rfl

theorem items?_value {item : Json} {text more : List Char} (h : value? fuel text = some (item, more)) :
    items? (fuel + 1) text =
      match skip more with
      | ']' :: rest => some ([item], rest)
      | ',' :: rest => (items? fuel rest).map fun part => (item :: part.1, part.2)
      | _ => none := by
  rw [items?, h]
  rfl

/-- What comes behind the value of a member. -/
theorem members?_member {name : Option String} {value : Json} {before token between text more : List Char}
    (hbefore : Gap before) (hname : Quotation name token) (hbetween : Gap between)
    (h : value? fuel text = some (value, more)) :
    members? (fuel + 1) (before ++ token ++ between ++ ':' :: text) =
      match skip more with
      | '}' :: rest => some ([(name, value)], rest)
      | ',' :: rest => (members? fuel rest).map fun part => ((name, value) :: part.1, part.2)
      | _ => none := by
  obtain ⟨body, hbody, hread⟩ := string?_quotation hname (between ++ ':' :: text)
  have hskip : skip (between ++ ':' :: text) = ':' :: text := skip_append hbetween _
  have htext : before ++ token ++ between ++ ':' :: text = before ++ (token ++ (between ++ ':' :: text)) := by
    simp
  rw [htext, hbody, members?, skip_append hbefore, skip_of_head (by decide)]
  change (string? body).bind _ = _
  rw [hread, Option.bind_some]
  dsimp only
  rw [hskip]
  change (value? fuel text).bind _ = _
  rw [h]
  rfl

end

/-! ## What is spelled is read -/

/-- The fuel is enough for all texts of some length. -/
structure Reads (fuel : Nat) : Prop where
  value : ∀ {value text} rest, Spells value text → Closes rest → text.length ≤ fuel →
    value? fuel (text ++ rest) = some (value, rest)
  items : ∀ {items text} rest, SpellsItems items text → text.length < fuel →
    items? fuel (text ++ ']' :: rest) = some (items, rest)
  members : ∀ {members text} rest, SpellsMembers members text → text.length < fuel →
    members? fuel (text ++ '}' :: rest) = some (members, rest)

section

variable {fuel : Nat}

theorem Reads.text (h : Reads fuel) {value : Json} {text : List Char} (htext : IsText value text)
    {rest : List Char} (hrest : Closes rest) (hfuel : text.length ≤ fuel) :
    ∃ more, value? fuel (text ++ rest) = some (value, more) ∧ skip more = skip rest := by
  obtain @⟨_, before, token, after, hbefore, hvalue, hafter⟩ := htext
  simp only [List.length_append] at hfuel
  refine ⟨after ++ rest, ?_, skip_append hafter rest⟩
  rw [List.append_assoc, List.append_assoc, value?_gap hbefore]
  exact h.value _ hvalue (closes_append hafter hrest) (by omega)

theorem Reads.nextValue (h : Reads fuel) {value : Json} {text rest : List Char} (hvalue : Spells value text)
    (hrest : Closes rest) (hfuel : text.length ≤ fuel + 1) :
    value? (fuel + 1) (text ++ rest) = some (value, rest) := by
  cases hvalue with
  | null => rfl
  | yes => rfl
  | no => rfl
  | number hliteral => rw [value?_number (number?_numeral hliteral hrest), String.ofList_toList]
  | string hquotation => exact value?_string hquotation rest
  | @noItems gap hgap =>
    have hskip : skip (gap ++ ']' :: rest) = ']' :: rest := skip_append hgap _
    rw [List.cons_append, List.append_assoc, value?_bracket, List.singleton_append, hskip]
    rfl
  | array hbody =>
    simp only [List.length_cons, List.length_append] at hfuel
    rw [List.cons_append, List.append_assoc]
    exact value?_array (hbody.head _) (h.items rest hbody (by omega))
  | @noMembers gap hgap =>
    have hskip : skip (gap ++ '}' :: rest) = '}' :: rest := skip_append hgap _
    rw [List.cons_append, List.append_assoc, value?_brace, List.singleton_append, hskip]
    rfl
  | object hbody =>
    simp only [List.length_cons, List.length_append] at hfuel
    rw [List.cons_append, List.append_assoc]
    exact value?_object (hbody.head _) (h.members rest hbody (by omega))

theorem Reads.nextItems (h : Reads fuel) {items : List Json} {text : List Char}
    (hitems : SpellsItems items text) (hfuel : text.length < fuel + 1) (rest : List Char) :
    items? (fuel + 1) (text ++ ']' :: rest) = some (items, rest) := by
  cases hitems with
  | last hitem =>
    have hclose : Closes (']' :: rest) := closes_cons (by decide) rest
    obtain ⟨more, hvalue, hskip⟩ := h.text hitem hclose (by omega)
    rw [items?_value hvalue, hskip]
    rfl
  | @cons item items text others hitem hothers =>
    simp only [List.length_append, List.length_cons] at hfuel
    have hcomma : Closes (',' :: (others ++ ']' :: rest)) := closes_cons (by decide) _
    obtain ⟨more, hvalue, hskip⟩ := h.text hitem hcomma (by omega)
    rw [List.append_assoc, List.cons_append, items?_value hvalue, hskip]
    change (items? fuel (others ++ ']' :: rest)).map _ = _
    rw [h.items rest hothers (by omega)]
    rfl

theorem Reads.member (h : Reads fuel) {member : Option String × Json} {text : List Char}
    (hmember : SpellsMember member text) {rest : List Char} (hrest : Closes rest)
    (hfuel : text.length ≤ fuel) :
    members? (fuel + 1) (text ++ rest) =
      match skip rest with
      | '}' :: rest => some ([member], rest)
      | ',' :: rest => (members? fuel rest).map fun part => (member :: part.1, part.2)
      | _ => none := by
  obtain @⟨name, value, before, token, between, text, hbefore, hname, hbetween, hvalue⟩ := hmember
  simp only [List.length_append, List.length_cons] at hfuel
  obtain ⟨more, hread, hskip⟩ := h.text hvalue hrest (by omega)
  have htext : before ++ token ++ between ++ ':' :: text ++ rest =
      before ++ token ++ between ++ ':' :: (text ++ rest) := by simp
  rw [htext, members?_member hbefore hname hbetween hread, hskip]

theorem Reads.nextMembers (h : Reads fuel) {members : List (Option String × Json)} {text : List Char}
    (hmembers : SpellsMembers members text) (hfuel : text.length < fuel + 1) (rest : List Char) :
    members? (fuel + 1) (text ++ '}' :: rest) = some (members, rest) := by
  cases hmembers with
  | last hmember =>
    rw [h.member hmember (closes_cons (by decide) rest) (by omega)]
    rfl
  | @cons member members text others hmember hothers =>
    simp only [List.length_append, List.length_cons] at hfuel
    have hcomma : Closes (',' :: (others ++ '}' :: rest)) := closes_cons (by decide) _
    rw [List.append_assoc, List.cons_append, h.member hmember hcomma (by omega)]
    change (members? fuel (others ++ '}' :: rest)).map _ = _
    rw [h.members rest hothers (by omega)]
    rfl

end

theorem reads_spellings (fuel : Nat) : Reads fuel := by
  induction fuel with
  | zero =>
    refine ⟨fun rest h _ hfuel => ?_, fun _ _ hfuel => absurd hfuel (Nat.not_lt_zero _),
      fun _ _ hfuel => absurd hfuel (Nat.not_lt_zero _)⟩
    obtain ⟨c, more, rfl, -⟩ := h.head
    exact absurd hfuel (Nat.not_succ_le_zero _)
  | succ fuel ih =>
    exact ⟨fun _ hvalue hrest hfuel => ih.nextValue hvalue hrest hfuel,
      fun rest hitems hfuel => ih.nextItems hitems hfuel rest,
      fun rest hmembers hfuel => ih.nextMembers hmembers hfuel rest⟩

theorem read?_isText {value : Json} {text : List Char} (h : IsText value text) : read? text = some value := by
  obtain ⟨more, hread, hskip⟩ := (reads_spellings (text.length + 1)).text h closes_nil (Nat.le_succ _)
  rw [List.append_nil] at hread
  rw [read?, hread]
  simp only [hskip]
  rfl

/-! ## What is read is spelled -/

/-- All that is read with the fuel is spelled. -/
structure Finds (fuel : Nat) : Prop where
  value : ∀ {text value rest}, value? fuel text = some (value, rest) →
    ∃ gap token, text = gap ++ token ++ rest ∧ Gap gap ∧ Spells value token
  items : ∀ {text items rest}, items? fuel text = some (items, rest) →
    ∃ body, text = body ++ ']' :: rest ∧ SpellsItems items body
  members : ∀ {text members rest}, members? fuel text = some (members, rest) →
    ∃ body, text = body ++ '}' :: rest ∧ SpellsMembers members body

section

variable {fuel : Nat}

/-- A value that something comes behind, after blanks. -/
theorem Finds.text (h : Finds fuel) {text more rest : List Char} {value : Json}
    (hread : value? fuel text = some (value, more)) (hskip : skip more = rest) :
    ∃ body, text = body ++ rest ∧ IsText value body := by
  obtain ⟨before, token, rfl, hbefore, hvalue⟩ := h.value hread
  obtain ⟨after, hmore, hafter⟩ := exists_gap more
  refine ⟨before ++ token ++ after, ?_, .padded hbefore hvalue hafter⟩
  rw [hskip] at hmore
  rw [hmore, List.append_assoc _ after]

theorem Finds.nextValue (h : Finds fuel) {text rest : List Char} {value : Json}
    (hread : value? (fuel + 1) text = some (value, rest)) :
    ∃ gap token, text = gap ++ token ++ rest ∧ Gap gap ∧ Spells value token := by
  suffices hspelled : ∃ token, skip text = token ++ rest ∧ Spells value token by
    obtain ⟨token, htoken, hvalue⟩ := hspelled
    obtain ⟨gap, htext, hgap⟩ := exists_gap text
    exact ⟨gap, token, by rw [htext, htoken, List.append_assoc], hgap, hvalue⟩
  rw [value?] at hread
  split at hread
  · rename_i heq
    obtain ⟨rfl, rfl⟩ := Prod.mk.inj (Option.some.inj hread)
    exact ⟨_, heq, .null⟩
  · rename_i heq
    obtain ⟨rfl, rfl⟩ := Prod.mk.inj (Option.some.inj hread)
    exact ⟨_, heq, .yes⟩
  · rename_i heq
    obtain ⟨rfl, rfl⟩ := Prod.mk.inj (Option.some.inj hread)
    exact ⟨_, heq, .no⟩
  · rename_i body heq
    obtain ⟨⟨string, left⟩, hstring, hpair⟩ := Option.map_eq_some_iff.mp hread
    obtain ⟨rfl, rfl⟩ := Prod.mk.inj hpair
    obtain ⟨token, htoken, hquotation⟩ := quotation_string? hstring
    exact ⟨token, heq.trans htoken, .string hquotation⟩
  · rename_i body heq
    obtain ⟨gap, hbody, hgap⟩ := exists_gap body
    split at hread
    · rename_i hskip
      obtain ⟨rfl, rfl⟩ := Prod.mk.inj (Option.some.inj hread)
      rw [hskip] at hbody
      exact ⟨_, by rw [heq, hbody]; simp, .noItems hgap⟩
    · obtain ⟨⟨items, left⟩, hitems, hpair⟩ := Option.map_eq_some_iff.mp hread
      obtain ⟨rfl, rfl⟩ := Prod.mk.inj hpair
      rw [items?_skip] at hitems
      obtain ⟨inner, hinner, hspelled⟩ := h.items hitems
      exact ⟨_, by rw [heq, hinner]; simp, .array hspelled⟩
  · rename_i body heq
    obtain ⟨gap, hbody, hgap⟩ := exists_gap body
    split at hread
    · rename_i hskip
      obtain ⟨rfl, rfl⟩ := Prod.mk.inj (Option.some.inj hread)
      rw [hskip] at hbody
      exact ⟨_, by rw [heq, hbody]; simp, .noMembers hgap⟩
    · obtain ⟨⟨members, left⟩, hmembers, hpair⟩ := Option.map_eq_some_iff.mp hread
      obtain ⟨rfl, rfl⟩ := Prod.mk.inj hpair
      rw [members?_skip] at hmembers
      obtain ⟨inner, hinner, hspelled⟩ := h.members hmembers
      exact ⟨_, by rw [heq, hinner]; simp, .object hspelled⟩
  · obtain ⟨⟨literal, left⟩, hnumber, hpair⟩ := Option.map_eq_some_iff.mp hread
    obtain ⟨rfl, rfl⟩ := Prod.mk.inj hpair
    obtain ⟨htext, hliteral⟩ := numeral_number? hnumber
    refine ⟨literal, htext, ?_⟩
    have hspelled : Spells (.number (String.ofList literal)) (String.ofList literal).toList :=
      .number (by rwa [String.toList_ofList])
    rwa [String.toList_ofList] at hspelled

theorem Finds.nextItems (h : Finds fuel) {text rest : List Char} {items : List Json}
    (hread : items? (fuel + 1) text = some (items, rest)) :
    ∃ body, text = body ++ ']' :: rest ∧ SpellsItems items body := by
  rw [items?] at hread
  obtain ⟨⟨item, more⟩, hvalue, hread⟩ := Option.bind_eq_some_iff.mp hread
  dsimp only at hread
  split at hread
  · rename_i hskip
    obtain ⟨rfl, rfl⟩ := Prod.mk.inj (Option.some.inj hread)
    obtain ⟨body, htext, hitem⟩ := h.text hvalue hskip
    exact ⟨body, htext, .last hitem⟩
  · rename_i hskip
    obtain ⟨⟨others, left⟩, hothers, hpair⟩ := Option.map_eq_some_iff.mp hread
    obtain ⟨rfl, rfl⟩ := Prod.mk.inj hpair
    obtain ⟨body, htext, hitem⟩ := h.text hvalue hskip
    obtain ⟨tail, htail, hspelled⟩ := h.items hothers
    exact ⟨body ++ ',' :: tail, by rw [htext, htail]; simp, .cons hitem hspelled⟩
  · cases hread

theorem Finds.nextMembers (h : Finds fuel) {text rest : List Char} {members : List (Option String × Json)}
    (hread : members? (fuel + 1) text = some (members, rest)) :
    ∃ body, text = body ++ '}' :: rest ∧ SpellsMembers members body := by
  rw [members?] at hread
  split at hread
  · rename_i body hquote
    obtain ⟨⟨name, afterName⟩, hname, hread⟩ := Option.bind_eq_some_iff.mp hread
    dsimp only at hread
    split at hread
    · rename_i afterColon hcolon
      obtain ⟨⟨value, more⟩, hvalue, hread⟩ := Option.bind_eq_some_iff.mp hread
      obtain ⟨before, hbefore, hbeforeGap⟩ := exists_gap text
      obtain ⟨token, htoken, hquotation⟩ := quotation_string? hname
      obtain ⟨between, hbetween, hbetweenGap⟩ := exists_gap afterName
      have hmember : ∀ {rest : List Char}, skip more = rest →
          ∃ body, text = body ++ rest ∧ SpellsMember (name, value) body := by
        intro rest hskip
        obtain ⟨inner, hinner, hspelled⟩ := h.text hvalue hskip
        refine ⟨before ++ token ++ between ++ ':' :: inner, ?_,
          .named hbeforeGap hquotation hbetweenGap hspelled⟩
        rw [hbefore, hquote, htoken, hbetween, hcolon, hinner]
        simp
      dsimp only at hread
      split at hread
      · rename_i hskip
        obtain ⟨rfl, rfl⟩ := Prod.mk.inj (Option.some.inj hread)
        obtain ⟨body, htext, hspelled⟩ := hmember hskip
        exact ⟨body, htext, .last hspelled⟩
      · rename_i hskip
        obtain ⟨⟨others, left⟩, hothers, hpair⟩ := Option.map_eq_some_iff.mp hread
        obtain ⟨rfl, rfl⟩ := Prod.mk.inj hpair
        obtain ⟨body, htext, hspelled⟩ := hmember hskip
        obtain ⟨tail, htail, hmembers⟩ := h.members hothers
        exact ⟨body ++ ',' :: tail, by rw [htext, htail]; simp, .cons hspelled hmembers⟩
      · cases hread
    · cases hread
  · cases hread

end

theorem finds_spellings (fuel : Nat) : Finds fuel := by
  induction fuel with
  | zero => exact ⟨fun h => (nomatch h), fun h => (nomatch h), fun h => (nomatch h)⟩
  | succ fuel ih => exact ⟨ih.nextValue, ih.nextItems, ih.nextMembers⟩

/-- **The reader reads just the texts of the grammar**, as what they spell. -/
theorem read?_eq_some_iff {value : Json} {text : List Char} :
    read? text = some value ↔ IsText value text := by
  constructor
  · intro h
    rw [read?] at h
    split at h
    · rename_i found rest hread
      split_ifs at h with hempty
      have hskip : skip rest = [] := List.isEmpty_iff.mp hempty
      obtain ⟨body, htext, hspelled⟩ := (finds_spellings _).text hread hskip
      rw [← Option.some.inj h, htext, List.append_nil]
      exact hspelled
    · cases h
  · exact read?_isText

end Runbook.Json
