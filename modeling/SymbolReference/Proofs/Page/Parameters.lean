import SymbolReference.Proofs.Page.View

namespace SymbolReference

/-- A run of characters of one class ends where the class ends, so it can be taken off a text. -/
theorem append_inj_of_stop {p : Char → Bool} {a b r s : List Char} (ha : ∀ c ∈ a, p c = true)
    (hb : ∀ c ∈ b, p c = true) (hr : ∀ c, r.head? = some c → p c = false)
    (hs : ∀ c, s.head? = some c → p c = false) (h : a ++ r = b ++ s) : a = b ∧ r = s := by
  have hstop : ∀ rest : List Char, (∀ c, rest.head? = some c → p c = false) →
      rest.takeWhile p = [] := by
    intro rest hrest
    cases rest with
    | nil => rfl
    | cons c rest => rw [List.takeWhile_cons_of_neg (by simp [hrest c rfl])]
  have hruns : a = b := by
    have htaken := congrArg (List.takeWhile p) h
    rwa [List.takeWhile_append_of_pos ha, List.takeWhile_append_of_pos hb, hstop r hr, hstop s hs,
      List.append_nil, List.append_nil] at htaken
  subst hruns
  exact ⟨rfl, List.append_cancel_left h⟩

theorem mark_append_inj {c : Char} {marked other : Bool} {r s : List Char}
    (hr : r.head? ≠ some c) (hs : s.head? ≠ some c)
    (h : (if marked then [c] else []) ++ r = (if other then [c] else []) ++ s) :
    marked = other ∧ r = s := by
  cases marked with
  | false =>
      cases other with
      | false => exact ⟨rfl, h⟩
      | true => exact absurd (congrArg List.head? h) hr
  | true =>
      cases other with
      | false => exact absurd (congrArg List.head? h).symm hs
      | true => exact ⟨rfl, (List.cons.inj h).2⟩

/-- Read a string value after its opening quote: the character after a backslash is taken as it is,
and the first quote without a backslash closes the value. What stands after it is left over. -/
def readQuoted : List Char → Option (List Char × List Char)
  | [] => none
  | ['\\'] => none
  | '\\' :: c :: rest => (readQuoted rest).map fun read => (c :: read.1, read.2)
  | c :: rest =>
    if c = '"' then some ([], rest)
    else (readQuoted rest).map fun read => (c :: read.1, read.2)

/-- A character of a string value as it is written in the end. -/
def valueChar (c : Char) : List Char :=
  if c = '\\' ∨ c = '"' then ['\\', c] else [c]

/-- Escaping the quotes does not touch the backslashes that were written before them, and what it
writes is not escaped again. -/
theorem backslashed_backslashed (s : List Char) :
    backslashed '"' (backslashed '\\' s) = s.flatMap valueChar := by
  unfold backslashed
  rw [List.flatMap_assoc]
  refine List.flatMap_congr fun c _ => ?_
  by_cases hbackslash : c = '\\'
  · subst hbackslash
    rfl
  · by_cases hquote : c = '"'
    · subst hquote
      rfl
    · simp [valueChar, hbackslash, hquote]

theorem formatText_eq (s : List Char) : formatText s = '"' :: s.flatMap valueChar ++ ['"'] := by
  rw [formatText, backslashed_backslashed]

theorem readQuoted_flatMap_valueChar (s rest : List Char) :
    readQuoted (s.flatMap valueChar ++ '"' :: rest) = some (s, rest) := by
  induction s with
  | nil => rfl
  | cons c s ih =>
      rw [List.flatMap_cons, List.append_assoc]
      by_cases hspecial : c = '\\' ∨ c = '"'
      · have hvalue : valueChar c = ['\\', c] := by simp [valueChar, hspecial]
        rw [hvalue, List.cons_append, List.cons_append, List.nil_append, readQuoted, ih]
        rfl
      · have hvalue : valueChar c = [c] := by simp [valueChar, hspecial]
        rw [not_or] at hspecial
        rw [hvalue, List.cons_append, List.nil_append, readQuoted, if_neg hspecial.2, ih]
        · rfl
        · intro hc _
          exact hspecial.1 hc
        · intro _ _ hc _
          exact hspecial.1 hc

theorem formatText_append_inj {s t r u : List Char}
    (h : formatText s ++ r = formatText t ++ u) : s = t ∧ r = u := by
  have hread : ∀ v rest : List Char, readQuoted ((formatText v ++ rest).tail) = some (v, rest) := by
    intro v rest
    rw [formatText_eq, List.cons_append, List.cons_append, List.append_assoc, List.tail_cons]
    exact readQuoted_flatMap_valueChar v rest
  have hsame : some (s, r) = some (t, u) := by rw [← hread s r, ← hread t u, h]
  exact Prod.mk.inj (Option.some.inj hsame)

/-- A string, a whole number, a truth value or nothing. -/
def Value.isPlain : Value → Bool
  | .str _ | .int _ | .bool _ | .none => true
  | _ => false

def isWordChar (c : Char) : Bool :=
  c.isAlphanum || c = '-'

/-- The plain value, other than a string, that is written as a word. -/
def wordValue (word : List Char) : Value :=
  if word = "None".toList then .none
  else if word = "True".toList then .bool true
  else if word = "False".toList then .bool false
  else .int (Html.readInt word)

theorem wordValue_intDigits (n : Int) : wordValue (Decimal.intDigits n) = .int n := by
  have hword : ∀ word : List Char, (word.any fun c => c ≠ '-' && !c.isDigit) = true →
      Decimal.intDigits n ≠ word := by
    rintro word hother rfl
    obtain ⟨c, hc, hplain⟩ := List.any_eq_true.mp hother
    rcases Html.mem_intDigits hc with rfl | hdigit
    · simp at hplain
    · simp [hdigit] at hplain
  rw [wordValue, if_neg (hword _ (by decide)), if_neg (hword _ (by decide)),
    if_neg (hword _ (by decide)), Html.readInt_intDigits]

theorem formatValue_cases {v : Value} (h : v.isPlain = true) :
    (∃ s : String, v = .str s ∧ formatValue v = formatText s.toList) ∨
      (∀ c ∈ formatValue v, isWordChar c = true) ∧ wordValue (formatValue v) = v := by
  cases v with
  | str s => exact Or.inl ⟨s, rfl, rfl⟩
  | none => exact Or.inr ⟨List.all_eq_true.mp rfl, rfl⟩
  | bool b =>
      cases b with
      | false => exact Or.inr ⟨List.all_eq_true.mp rfl, rfl⟩
      | true => exact Or.inr ⟨List.all_eq_true.mp rfl, rfl⟩
  | int n =>
      refine Or.inr ⟨?_, wordValue_intDigits n⟩
      intro c hc
      rcases Html.mem_intDigits hc with rfl | hdigit
      · decide
      · simp [isWordChar, Char.isAlphanum, hdigit]
  | _ => cases h

theorem formatText_append_ne {s word : List Char} (h : ∀ c ∈ word, isWordChar c = true)
    (r u : List Char) : formatText s ++ r ≠ word ++ ']' :: u := by
  intro heq
  have hhead := congrArg List.head? heq
  cases word with
  | nil =>
      have hquote : '"' = ']' := Option.some.inj hhead
      exact absurd hquote (by decide)
  | cons c word =>
      obtain rfl : '"' = c := Option.some.inj hhead
      exact absurd (h '"' List.mem_cons_self) (by decide)

/-- A plain value ends before the bracket that follows it. -/
theorem formatValue_append_inj {v w : Value} (hv : v.isPlain = true) (hw : w.isPlain = true)
    {r s : List Char} (h : formatValue v ++ ']' :: r = formatValue w ++ ']' :: s) :
    v = w ∧ r = s := by
  rcases formatValue_cases hv with ⟨a, rfl, ha⟩ | ⟨hchars, hword⟩
  · rcases formatValue_cases hw with ⟨b, rfl, hb⟩ | ⟨hchars, -⟩
    · rw [ha, hb] at h
      obtain ⟨htext, hrest⟩ := formatText_append_inj h
      exact ⟨congrArg Value.str (String.toList_inj.mp htext), (List.cons.inj hrest).2⟩
    · rw [ha] at h
      exact absurd h (formatText_append_ne hchars _ _)
  · rcases formatValue_cases hw with ⟨b, rfl, hb⟩ | ⟨hothers, hother⟩
    · rw [hb] at h
      exact absurd h.symm (formatText_append_ne hchars _ _)
    · have hbracket : ∀ rest : List Char, ∀ c, (']' :: rest).head? = some c →
          isWordChar c = false := by
        rintro rest c ⟨⟩
        decide
      obtain ⟨htext, hrest⟩ := append_inj_of_stop hchars hothers (hbracket r) (hbracket s) h
      refine ⟨?_, (List.cons.inj hrest).2⟩
      rw [← hword, htext, hother]

/-- A character that stands clear of the white space and the punctuation of a parameter list. -/
def isParameterChar (c : Char) : Bool :=
  !(Text.isBlank c || c = ',' || c = '[' || c = ']' || c = '&' || c = '=')

namespace Parameter

/-- A parameter whose name is clear of the punctuation of a parameter list and whose default, if it
is shown, is plain. -/
structure Readable (p : Parameter) : Prop where
  named : p.name ≠ ""
  clear : ∀ c ∈ p.name.toList, isParameterChar c = true
  default : p.optional = true → p.hasDefault = true → p.default.isPlain = true

/-- Two parameters that agree in all that is shown of them: a default counts only where it is
declared, and only for an optional parameter. -/
structure ShownAlike (p q : Parameter) : Prop where
  name : p.name = q.name
  byReference : p.byReference = q.byReference
  optional : p.optional = q.optional
  hasDefault : p.optional = true → p.hasDefault = q.hasDefault
  default : p.optional = true → p.hasDefault = true → p.default = q.default

/-- What stands after the name of a parameter. -/
def ending (p : Parameter) : List Char :=
  if p.optional then
    (if p.hasDefault then [' ', '=', ' '] ++ formatValue p.default else []) ++ [']']
  else []

theorem format_eq (p : Parameter) :
    p.format = (if p.byReference then ['&'] else []) ++
      ((if p.optional then ['['] else []) ++ (p.name.toList ++ p.ending)) := by
  rw [format, ending]
  cases p.optional with
  | false => simp
  | true => simp

end Parameter

/-- What may stand after a parameter: nothing, or the comma before the next one. -/
def FollowsParameter (rest : List Char) : Prop :=
  ∀ c, rest.head? = some c → c = ','

namespace Parameter

variable {p q : Parameter} {r s : List Char}

theorem head?_ending_append (p : Parameter) (hr : FollowsParameter r) {c : Char}
    (hc : (p.ending ++ r).head? = some c) : isParameterChar c = false := by
  unfold ending at hc
  cases hoptional : p.optional with
  | false =>
      simp only [hoptional, Bool.false_eq_true, if_false, List.nil_append] at hc
      rw [hr c hc]
      decide
  | true =>
      cases hdefault : p.hasDefault with
      | false =>
          simp only [hoptional, hdefault, if_true, Bool.false_eq_true, if_false] at hc
          cases hc
          decide
      | true =>
          simp only [hoptional, hdefault, if_true] at hc
          cases hc
          decide

/-- A readable name begins with none of the marks of a parameter list. -/
theorem head?_name_append_ne {mark : Char} (hmark : isParameterChar mark = false)
    (hp : p.Readable) (rest : List Char) : (p.name.toList ++ rest).head? ≠ some mark := by
  have hnamed : p.name.toList ≠ [] := fun h => hp.named (String.toList_eq_nil_iff.mp h)
  obtain ⟨c, others, hname⟩ := List.exists_cons_of_ne_nil hnamed
  have hclear : isParameterChar c = true := hp.clear c (hname ▸ List.mem_cons_self)
  intro h
  rw [hname] at h
  cases h
  rw [hclear] at hmark
  cases hmark

theorem head?_bracket_append_ne (hp : p.Readable) (optional : Bool) (rest : List Char) :
    ((if optional then ['['] else []) ++ (p.name.toList ++ rest)).head? ≠ some '&' := by
  cases optional with
  | false => exact head?_name_append_ne (by decide) hp rest
  | true =>
      intro h
      cases h

theorem ending_append_inj (hp : p.Readable) (hq : q.Readable) (hoptional : p.optional = q.optional)
    (h : p.ending ++ r = q.ending ++ s) :
    (p.optional = true → p.hasDefault = q.hasDefault) ∧
      (p.optional = true → p.hasDefault = true → p.default = q.default) ∧ r = s := by
  unfold ending at h
  cases hshown : p.optional with
  | false =>
      rw [← hoptional, hshown] at h
      exact ⟨by simp, by simp, h⟩
  | true =>
      have hplain := hp.default hshown
      have hother := hq.default (hoptional ▸ hshown)
      rw [← hoptional, hshown, if_pos rfl, if_pos rfl] at h
      -- An ending with a default and one without differ in their first characters.
      cases hdefault : p.hasDefault with
      | false =>
          cases hqdefault : q.hasDefault with
          | false =>
              rw [hdefault, hqdefault] at h
              exact ⟨fun _ => rfl, by simp, (List.cons.inj h).2⟩
          | true =>
              rw [hdefault, hqdefault] at h
              exact absurd (congrArg List.head? h) (by simp)
      | true =>
          cases hqdefault : q.hasDefault with
          | false =>
              rw [hdefault, hqdefault] at h
              exact absurd (congrArg List.head? h) (by simp)
          | true =>
              simp only [hdefault, hqdefault, if_true, List.append_assoc] at h
              have hvalues := List.append_cancel_left h
              obtain ⟨hvalue, hrest⟩ :=
                formatValue_append_inj (hplain hdefault) (hother hqdefault) hvalues
              exact ⟨fun _ => rfl, fun _ _ => hvalue, hrest⟩

/-- A parameter can be taken off a list: it ends before the comma of the next one. -/
theorem format_append_inj (hp : p.Readable) (hq : q.Readable) (hr : FollowsParameter r)
    (hs : FollowsParameter s) (h : p.format ++ r = q.format ++ s) : p.ShownAlike q ∧ r = s := by
  simp only [format_eq, List.append_assoc] at h
  obtain ⟨hbyReference, h⟩ := mark_append_inj (head?_bracket_append_ne hp _ _)
    (head?_bracket_append_ne hq _ _) h
  obtain ⟨hoptional, h⟩ := mark_append_inj (head?_name_append_ne (by decide) hp _)
    (head?_name_append_ne (by decide) hq _) h
  obtain ⟨hname, h⟩ := append_inj_of_stop hp.clear hq.clear
    (fun _ => head?_ending_append p hr) (fun _ => head?_ending_append q hs) h
  obtain ⟨hhas, hdefault, hrest⟩ := ending_append_inj hp hq hoptional h
  exact ⟨⟨String.toList_inj.mp hname, hbyReference, hoptional, hhas, hdefault⟩, hrest⟩

theorem ShownAlike.format_eq (h : p.ShownAlike q) : p.format = q.format := by
  have hending : p.ending = q.ending := by
    unfold ending
    rw [← h.optional]
    cases hoptional : p.optional with
    | false => rfl
    | true =>
        rw [← h.hasDefault hoptional]
        cases hdefault : p.hasDefault with
        | false => rfl
        | true => rw [h.default hoptional hdefault]
  rw [Parameter.format_eq, Parameter.format_eq, hending, h.name, h.byReference, h.optional]

end Parameter

/-- The parameters after the first one, each behind a comma. -/
def formatFollowing (parameters : List Parameter) : List Char :=
  parameters.flatMap fun p => ',' :: ' ' :: p.format

theorem formatParameters_cons (p : Parameter) (others : List Parameter) :
    formatParameters (p :: others) = p.format ++ formatFollowing others := by
  induction others generalizing p with
  | nil => exact (List.append_nil _).symm
  | cons q others ih =>
      have hjoined : formatParameters (p :: q :: others) =
          p.format ++ [',', ' '] ++ formatParameters (q :: others) := rfl
      rw [hjoined, ih, List.append_assoc]
      rfl

theorem followsParameter_formatFollowing (parameters : List Parameter) :
    FollowsParameter (formatFollowing parameters) := by
  intro c hc
  cases parameters with
  | nil => cases hc
  | cons p others => exact (Option.some.inj hc).symm

theorem forall₂_of_formatFollowing_eq {ps qs : List Parameter} (hps : ∀ p ∈ ps, p.Readable)
    (hqs : ∀ q ∈ qs, q.Readable) (h : formatFollowing ps = formatFollowing qs) :
    List.Forall₂ Parameter.ShownAlike ps qs := by
  induction ps generalizing qs with
  | nil =>
      cases qs with
      | nil => exact List.Forall₂.nil
      | cons q qs => cases h
  | cons p ps ih =>
      cases qs with
      | nil => cases h
      | cons q qs =>
          rw [List.forall_mem_cons] at hps hqs
          have hformat : p.format ++ formatFollowing ps = q.format ++ formatFollowing qs :=
            (List.cons.inj (List.cons.inj h).2).2
          obtain ⟨halike, hrest⟩ := Parameter.format_append_inj hps.1 hqs.1
            (followsParameter_formatFollowing ps) (followsParameter_formatFollowing qs) hformat
          exact List.Forall₂.cons halike (ih hps.2 hqs.2 hrest)

theorem formatParameters_cons_ne_nil {p : Parameter} (hp : p.Readable) (others : List Parameter) :
    formatParameters (p :: others) ≠ [] := by
  intro h
  rw [formatParameters_cons, Parameter.format_eq] at h
  simp only [List.append_eq_nil_iff] at h
  exact hp.named (String.toList_eq_nil_iff.mp h.1.2.2.1)

theorem formatParameters_eq_of_forall₂ {ps qs : List Parameter}
    (h : List.Forall₂ Parameter.ShownAlike ps qs) : formatParameters ps = formatParameters qs := by
  have hformats : ps.map Parameter.format = qs.map Parameter.format := by
    induction h with
    | nil => rfl
    | cons halike _ ih => rw [List.map_cons, List.map_cons, halike.format_eq, ih]
  exact congrArg (Text.joined [',', ' ']) hformats

/-- Parameter lists with clear names and plain defaults have the same text exactly if they show the
same parameters, one for one and in order. -/
theorem formatParameters_eq_iff {ps qs : List Parameter} (hps : ∀ p ∈ ps, p.Readable)
    (hqs : ∀ q ∈ qs, q.Readable) :
    formatParameters ps = formatParameters qs ↔ List.Forall₂ Parameter.ShownAlike ps qs := by
  constructor
  · intro h
    cases ps with
    | nil =>
        cases qs with
        | nil => exact List.Forall₂.nil
        | cons q qs =>
            exact absurd h.symm (formatParameters_cons_ne_nil (hqs q List.mem_cons_self) qs)
    | cons p ps =>
        cases qs with
        | nil => exact absurd h (formatParameters_cons_ne_nil (hps p List.mem_cons_self) ps)
        | cons q qs =>
            rw [formatParameters_cons, formatParameters_cons] at h
            rw [List.forall_mem_cons] at hps hqs
            obtain ⟨halike, hrest⟩ := Parameter.format_append_inj hps.1 hqs.1
              (followsParameter_formatFollowing ps) (followsParameter_formatFollowing qs) h
            exact List.Forall₂.cons halike (forall₂_of_formatFollowing_eq hps.2 hqs.2 hrest)
  · exact formatParameters_eq_of_forall₂

def defaulted (name : String) (value : Value) : Parameter where
  name := name
  optional := true
  hasDefault := true
  default := value

theorem readable_defaulted {name : String} {value : Value} (hnamed : name ≠ "")
    (hclear : name.toList.all isParameterChar = true) (hvalue : value.isPlain = true) :
    (defaulted name value).Readable :=
  ⟨hnamed, List.all_eq_true.mp hclear, fun _ _ => hvalue⟩

/-- A default that looks like the end of its parameter and the beginning of the next one is not taken
for two parameters, nor a number for its text. -/
theorem formatParameters_ne_of_lookalikes :
    formatParameters [defaulted "x" (.str "1\"], [y = \"2")] ≠
      formatParameters [defaulted "x" (.str "1"), defaulted "y" (.str "2")] ∧
    formatParameters [defaulted "x" (.int (-1))] ≠
      formatParameters [defaulted "x" (.str "-1")] := by
  have hx : ∀ value : Value, value.isPlain = true → (defaulted "x" value).Readable :=
    fun _ => readable_defaulted (by decide) (by decide)
  have hy : ∀ value : Value, value.isPlain = true → (defaulted "y" value).Readable :=
    fun _ => readable_defaulted (by decide) (by decide)
  constructor
  · rw [Ne, formatParameters_eq_iff]
    · rintro (_ | ⟨-, ⟨⟩⟩)
    · simpa using hx (.str "1\"], [y = \"2") rfl
    · simpa using ⟨hx (.str "1") rfl, hy (.str "2") rfl⟩
  · rw [Ne, formatParameters_eq_iff]
    · rintro (_ | ⟨halike, -⟩)
      cases halike.default rfl rfl
    · simpa using hx (.int (-1)) rfl
    · simpa using hx (.str "-1") rfl

end SymbolReference
