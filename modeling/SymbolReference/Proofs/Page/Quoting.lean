import SymbolReference.Proofs.Page.Parameters

namespace SymbolReference

/-- Read a text from left to right, where a backslash stands for the character after it. A backslash
at the end stands for nothing. -/
def unescape : List Char → Option (List Char)
  | [] => some []
  | ['\\'] => none
  | '\\' :: c :: rest => (unescape rest).map (c :: ·)
  | c :: rest => (unescape rest).map (c :: ·)

theorem unescape_backslash (c : Char) (rest : List Char) :
    unescape ('\\' :: c :: rest) = (unescape rest).map (c :: ·) := by
  rw [unescape]

theorem unescape_cons {c : Char} (hc : c ≠ '\\') (rest : List Char) :
    unescape (c :: rest) = (unescape rest).map (c :: ·) := by
  rw [unescape]
  · intro h _
    exact hc h
  · intro _ _ h _
    exact hc h

/-- What is written for a character is a plain character or a backslash and the character. -/
theorem valueChar_cases (c : Char) :
    valueChar c = ['\\', c] ∨ valueChar c = [c] ∧ c ≠ '\\' ∧ c ≠ '"' := by
  by_cases hspecial : c = '\\' ∨ c = '"'
  · exact Or.inl (by simp [valueChar, hspecial])
  · exact Or.inr ⟨by simp [valueChar, hspecial], not_or.mp hspecial⟩

theorem unescape_flatMap_valueChar (s : List Char) : unescape (s.flatMap valueChar) = some s := by
  induction s with
  | nil => rfl
  | cons c s ih =>
      rw [List.flatMap_cons]
      rcases valueChar_cases c with hvalue | ⟨hvalue, hbackslash, -⟩
      · rw [hvalue, List.cons_append, List.singleton_append, unescape_backslash, ih]
        rfl
      · rw [hvalue, List.singleton_append, unescape_cons hbackslash, ih]
        rfl

/-- Before every quote of an escaped text stands a backslash that is not itself escaped. -/
theorem exists_backslash_before_quote {s before after : List Char}
    (h : s.flatMap valueChar = before ++ '"' :: after) :
    ∃ start, before = start ++ ['\\'] ∧ (unescape start).isSome = true := by
  -- What stands before the backslash is read to its end, so it does not escape the backslash.
  induction s generalizing before with
  | nil => simp at h
  | cons c s ih =>
      rw [List.flatMap_cons] at h
      rcases valueChar_cases c with hvalue | ⟨hvalue, hbackslash, hquote⟩
      · rw [hvalue, List.cons_append, List.singleton_append] at h
        rcases before with _ | ⟨first, _ | ⟨second, before⟩⟩
        · exact absurd (List.cons.inj h).1 (by decide)
        · obtain ⟨rfl, -⟩ := List.cons.inj h
          exact ⟨[], rfl, rfl⟩
        · rw [List.cons_append, List.cons_append, List.cons.injEq, List.cons.injEq] at h
          obtain ⟨rfl, rfl, hrest⟩ := h
          obtain ⟨start, rfl, hstart⟩ := ih hrest
          refine ⟨'\\' :: c :: start, rfl, ?_⟩
          rw [unescape_backslash, Option.isSome_map]
          exact hstart
      · rw [hvalue, List.singleton_append] at h
        rcases before with _ | ⟨first, before⟩
        · exact absurd (List.cons.inj h).1 hquote
        · obtain ⟨rfl, hrest⟩ := List.cons.inj h
          obtain ⟨start, rfl, hstart⟩ := ih hrest
          refine ⟨c :: start, rfl, ?_⟩
          rw [unescape_cons hbackslash, Option.isSome_map]
          exact hstart

/-- The text of a string between its quotes: it reads back as the string, every quote in it follows
an escaping backslash, and the quote after it is the first one that follows none. -/
structure QuotedBody (s body : List Char) : Prop where
  reads : unescape body = some s
  escaped : ∀ before after, body = before ++ '"' :: after →
    ∃ start, before = start ++ ['\\'] ∧ (unescape start).isSome = true
  closes : ∀ rest, readQuoted (body ++ '"' :: rest) = some (s, rest)

theorem quotedBody_flatMap_valueChar (s : List Char) : QuotedBody s (s.flatMap valueChar) where
  reads := unescape_flatMap_valueChar s
  escaped _ _ := exists_backslash_before_quote
  closes := readQuoted_flatMap_valueChar s

theorem quote_notMem_natDigits (n : Nat) : '"' ∉ Decimal.natDigits n := by
  intro hmem
  have hdigit : '"'.isDigit = true := Nat.isDigit_of_mem_toDigits (by decide) (by decide) hmem
  exact absurd hdigit (by decide)

theorem quote_notMem_intDigits (n : Int) : '"' ∉ Decimal.intDigits n := by
  intro hmem
  rcases Html.mem_intDigits hmem with hsign | hdigit
  · exact absurd hsign (by decide)
  · exact absurd hdigit (by decide)

theorem quote_notMem_exponentDigits (e : Int) : '"' ∉ Decimal.exponentDigits e := by
  have hdigits := quote_notMem_natDigits e.natAbs
  unfold Decimal.exponentDigits
  intro hmem
  rcases List.mem_cons.mp hmem with hsign | hmem
  · split at hsign
    · exact absurd hsign (by decide)
    · exact absurd hsign (by decide)
  · split at hmem
    · rcases List.mem_cons.mp hmem with hzero | hmem
      · exact absurd hzero (by decide)
      · exact hdigits hmem
    · exact hdigits hmem

theorem quote_notMem_digits_write (layout : Decimal.Layout) (d : Decimal.Digits) :
    '"' ∉ d.write layout := by
  have hdigits := quote_notMem_natDigits d.number
  have hexponent := quote_notMem_exponentDigits (d.scale - 1)
  have htake : ∀ n, '"' ∉ (Decimal.natDigits d.number).take n :=
    fun n hmem => hdigits (List.mem_of_mem_take hmem)
  have hdrop : ∀ n, '"' ∉ (Decimal.natDigits d.number).drop n :=
    fun n hmem => hdigits (List.mem_of_mem_drop hmem)
  unfold Decimal.Digits.write
  simp only
  split
  · split
    · simp [hdigits, List.mem_replicate]
    · split
      · split
        · simp [hdigits, List.mem_replicate]
        · simp [hdigits, List.mem_replicate]
      · simp [htake, hdrop]
  · split
    · simp
    · rename_i digit hone
      rw [hone] at hdigits
      simpa [hexponent] using hdigits
    · rename_i digit others _ hmany
      rw [hmany] at hdigits
      simpa [hexponent] using hdigits

theorem quote_notMem_write (layout : Decimal.Layout) (x : Float) :
    '"' ∉ Decimal.write layout x := by
  have hsigned : ∀ negative magnitude, '"' ∉ magnitude →
      '"' ∉ Decimal.signed negative magnitude := by
    intro negative magnitude hmagnitude
    cases negative with
    | false => exact hmagnitude
    | true => simpa [Decimal.signed] using hmagnitude
  unfold Decimal.write Decimal.Parts.write
  split
  · decide
  · exact hsigned _ _ (by decide)
  · refine hsigned _ _ ?_
    split
    · decide
    · decide
  · exact hsigned _ _ (quote_notMem_digits_write _ _)

theorem head?_ne_of_notMem {s : List Char} (h : '"' ∉ s) : s.head? ≠ some '"' :=
  fun hhead => h (List.mem_of_head? hhead)

theorem head?_append_ne {mark : List Char} (h : (mark.head?.any fun c => c ≠ '"') = true)
    (rest : List Char) : (mark ++ rest).head? ≠ some '"' := by
  rcases mark with _ | ⟨c, mark⟩
  · cases h
  · simpa using h

theorem head?_renderComplex_ne (re im : Float) : (renderComplex re im).head? ≠ some '"' := by
  unfold renderComplex
  split
  · refine head?_ne_of_notMem ?_
    simpa using quote_notMem_write complexLayout im
  · have hmark : (['('].head?.any fun c => c ≠ '"') = true := by decide
    exact head?_append_ne hmark _

theorem head?_render_ne {v : Value} (h : v.text? = none) (hobject : ∀ o, v ≠ .object o) :
    v.render.head? ≠ some '"' := by
  have hopening : ∀ mark : Char, mark ≠ '"' → ∀ rest, (mark :: rest).head? ≠ some '"' := by
    rintro mark hmark rest ⟨⟩
    exact hmark rfl
  cases v with
  | none => decide
  | bool b =>
      cases b with
      | false => decide
      | true => decide
  | int n => exact head?_ne_of_notMem (quote_notMem_intDigits n)
  | float x => exact head?_ne_of_notMem (quote_notMem_write floatLayout x)
  | complex re im => exact head?_renderComplex_ne re im
  | bytes data => exact hopening 'b' (by decide) _
  | str s => cases h
  | kind k => cases h
  | list items => exact hopening '[' (by decide) _
  | tuple items =>
      rcases items with _ | ⟨first, _ | ⟨second, others⟩⟩
      · decide
      · exact hopening '(' (by decide) _
      · exact hopening '(' (by decide) _
  | set items =>
      rcases items with _ | ⟨first, others⟩
      · decide
      · exact hopening '\x7b' (by decide) _
  | frozenset items =>
      rcases items with _ | ⟨first, others⟩
      · decide
      · change ("frozenset(\x7b".toList ++ Value.render first ++ Value.renderMore others ++
          "\x7d)".toList).head? ≠ some '"'
        rw [List.append_assoc, List.append_assoc]
        exact head?_append_ne (by decide) _
  | dict entries => exact hopening '\x7b' (by decide) _
  | range start stop step =>
      change (renderRange start stop step).head? ≠ some '"'
      unfold renderRange
      rw [List.append_assoc, List.append_assoc, List.append_assoc, List.append_assoc]
      exact head?_append_ne (by decide) _
  | ellipsis => decide
  | day d =>
      change d.render.head? ≠ some '"'
      unfold Day.render
      rw [List.append_assoc]
      exact head?_append_ne (by decide) _
  | moment m =>
      change m.render.head? ≠ some '"'
      unfold Moment.render
      rw [List.append_assoc, List.append_assoc]
      exact head?_append_ne (by decide) _
  | cycle keyed =>
      cases keyed with
      | false => decide
      | true => decide
  | object o => exact absurd rfl (hobject o)

theorem formatText_injective {s t : List Char} (h : formatText s = formatText t) : s = t := by
  rw [← List.append_nil (formatText s), ← List.append_nil (formatText t)] at h
  exact (formatText_append_inj h).1

theorem formatValue_of_text? {v : Value} {s : String} (h : v.text? = some s) :
    formatValue v = formatText s.toList := by
  rw [formatValue, h]

/-- A string is shown as an escaped text between two quotes, from which it is read back, and no other
value, however nested, has the text of a string. A kind is the string of its label. An object that is
not looked into has the text that it gives for itself, which may be any. -/
theorem formatValue_eq_formatValue_str_iff (v : Value) (s : String) :
    (∃ body, formatValue (.str s) = '"' :: body ++ ['"'] ∧ QuotedBody s.toList body) ∧
      (formatValue v = formatValue (.str s) ↔
        v.text? = some s ∨ ∃ o, v = .object o ∧ o.text.toList = formatValue (.str s)) := by
  have hstring : formatValue (.str s) = formatText s.toList := formatValue_of_text? rfl
  refine ⟨⟨s.toList.flatMap valueChar, ?_, quotedBody_flatMap_valueChar s.toList⟩, ?_⟩
  · rw [hstring, formatText_eq]
  constructor
  · intro h
    by_cases hobject : ∃ o, v = .object o
    · obtain ⟨o, rfl⟩ := hobject
      exact Or.inr ⟨o, rfl, h⟩
    rw [hstring] at h
    cases htext : v.text? with
    | none =>
        rw [formatValue, htext] at h
        exact absurd (congrArg List.head? h) (head?_render_ne htext (not_exists.mp hobject))
    | some t =>
        rw [formatValue_of_text? htext] at h
        exact Or.inl (by rw [String.toList_inj.mp (formatText_injective h)])
  · rintro (h | ⟨o, rfl, h⟩)
    · rw [formatValue_of_text? h, hstring]
    · exact h

example : unescape "say \\\"hi\\\" \\\\".toList = some "say \"hi\" \\".toList := by decide

end SymbolReference
