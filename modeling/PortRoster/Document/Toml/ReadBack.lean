import PortRoster.Document.Toml.Quoted

/-! # Quoted texts of TOML read back

A text that is written in one of its four forms is read back from it. What follows the text must not
begin with a quote, which would be taken for a part of it.

* `readQuoted_quoted`: reading takes the text and its quotes and leaves what follows. -/

namespace PortRoster.Toml

/-- What follows a text does not begin with a quote. -/
def NoQuote (rest : List Char) : Prop := rest.head? ≠ some '"' ∧ rest.head? ≠ some '\''

/-! ### Basic texts -/

theorem codePoint?_hexadecimal {c : Char} (h : isControl c = true) :
    codePoint? (Text.hexadecimal 4 c.toNat) = some c := by
  have hall : ∀ n ≤ 127, codePoint? (Text.hexadecimal 4 n) = some (Char.ofNat n) := by decide
  have hn : c.toNat ≤ 127 := by
    simp only [isControl, Bool.or_eq_true, Bool.and_eq_true, decide_eq_true_eq, beq_iff_eq] at h
    omega
  rw [hall _ hn, Char.ofNat_toNat]

theorem readBasic_escaped {c x : Char} (h : escaped? c = some x) (cs : List Char) :
    readBasic ('\\' :: c :: cs) = (readBasic cs).put [x] := by
  have hn : escaped? 'u' = none ∧ escaped? 'U' = none := by decide
  have hu : c ≠ 'u' := fun e => by rw [e, hn.1] at h; simp at h
  have hU : c ≠ 'U' := fun e => by rw [e, hn.2] at h; simp at h
  rw [readBasic.eq_5 _ _ (fun _ _ _ _ _ e _ => hu e) (fun _ _ _ _ _ _ _ _ _ e _ => hU e), h]
  rfl

theorem readBasic_escape (c : Char) (cs : List Char) :
    readBasic (escape c ++ cs) = (readBasic cs).put [c] := by
  unfold escape
  iterate 7
    split
    · next h => subst h; exact readBasic_escaped rfl cs
  split
  · next h =>
    have hc := codePoint?_hexadecimal h
    simp only [Text.hexadecimal, List.nil_append, List.cons_append] at hc ⊢
    simp only [readBasic, hc, Option.bind_some]
  · next hb hl _ _ _ _ h => simp [readBasic, hb, hl, h]

theorem put_put (cs ds : List Char) (t : Taken) : (t.put ds).put cs = t.put (cs ++ ds) := by
  cases t <;> simp [Taken.put]

theorem readBasic_basicBody (cs rest : List Char) :
    readBasic (basicBody cs ++ '"' :: rest) = some (cs, rest) := by
  unfold basicBody
  induction cs with
  | nil => simp [readBasic]
  | cons c cs ih =>
    rw [List.flatMap_cons, List.append_assoc, readBasic_escape, ih]
    rfl

/-! ### Literal texts -/

theorem readLiteral_append {cs : List Char}
    (h : ∀ c ∈ cs, c ≠ '\'' ∧ c ≠ '\n' ∧ isControl c = false) (rest : List Char) :
    readLiteral (cs ++ '\'' :: rest) = some (cs, rest) := by
  induction cs with
  | nil => simp [readLiteral]
  | cons c cs ih =>
    obtain ⟨hq, hl, hc⟩ := h c (by simp)
    have ih := ih fun d hd => h d (by simp [hd])
    simp [readLiteral, hl, hc, ih, Taken.put]

/-! ### Long texts -/

theorem closeLong_replicate {quote : Char} {k : Nat} {rest : List Char} (hk : k ≤ 2)
    (h : rest.head? ≠ some quote) :
    closeLong quote (List.replicate k quote ++ rest) = (List.replicate k quote, rest) := by
  match k, hk with
  | 0, _ =>
    match rest with
    | [] => rfl
    | [a] => simp_all [closeLong]
    | a :: b :: cs => simp_all [closeLong]
  | 1, _ =>
    match rest with
    | [] => simp [closeLong, List.replicate]
    | a :: cs => simp_all [closeLong, List.replicate]
  | 2, _ => simp [closeLong, List.replicate]

theorem readLong_cons {c : Char} {cs : List Char} (h3 : ∀ ds, c :: cs ≠ '"' :: '"' :: '"' :: ds)
    (hb : c ≠ '\\') (hc : isControl c = false) :
    readLong false (c :: cs) = (readLong false cs).put [c] := by
  have hr : c ≠ '\r' := fun e => by rw [e] at hc; exact absurd hc (by decide)
  rw [readLong.eq_7]
  · simp [hb, hc]
  · rintro ds rfl rfl; exact h3 ds rfl
  · intro _ _ _ _ _ e _; exact hb e
  · intro _ _ _ _ _ _ _ _ _ e _; exact hb e
  · intro _ e _; exact hr e
  · intro _ _ e _; exact hb e

theorem readLong_replicate {k : Nat} (hk : k ≤ 2) {c : Char} (hc : c ≠ '"') (cs : List Char) :
    readLong false (List.replicate k '"' ++ c :: cs) =
      (readLong false (c :: cs)).put (List.replicate k '"') := by
  have hq : isControl '"' = false := by decide
  induction k with
  | zero => cases h : readLong false (c :: cs) <;> simp [Taken.put, h]
  | succ k ih =>
    have h3 : ∀ ds, '"' :: (List.replicate k '"' ++ c :: cs) ≠ '"' :: '"' :: '"' :: ds := by
      match k, hk with
      | 0, _ => simp [hc]
      | 1, _ => simp [List.replicate, hc]
    rw [List.replicate_succ, List.cons_append, readLong_cons h3 (by decide) hq, ih (by omega),
      put_put]
    rfl

theorem readLong_escaped {c x : Char} (h : escaped? c = some x) (cs : List Char) :
    readLong false ('\\' :: c :: cs) = (readLong false cs).put [x] := by
  have hn : escaped? 'u' = none ∧ escaped? 'U' = none ∧ escaped? ' ' = none ∧ escaped? '\t' = none ∧
    escaped? '\n' = none ∧ escaped? '\r' = none := by decide
  have ne (d : Char) (hd : escaped? d = none) : c ≠ d := fun e => by rw [e, hd] at h; simp at h
  have he : endsLine (c :: cs) = false := by
    simp [endsLine, ne _ hn.2.2.1, ne _ hn.2.2.2.1]
    split
    · next e => simp at e; exact absurd e.1 (ne _ hn.2.2.2.2.1)
    · next e => simp at e; exact absurd e.1 (ne _ hn.2.2.2.2.2)
    · rfl
  rw [readLong.eq_6 _ _ _ (fun _ _ _ _ _ e _ => ne _ hn.1 e)
    (fun _ _ _ _ _ _ _ _ _ e _ => ne _ hn.2.1 e), h]
  simp [he]

theorem readLong_escape {c : Char} (hl : c ≠ '\n') (cs : List Char) :
    readLong false (escape c ++ cs) = (readLong false cs).put [c] := by
  unfold escape
  iterate 6
    split
    · next h => subst h; exact readLong_escaped rfl cs
  split
  · next h =>
    have hc := codePoint?_hexadecimal h
    simp only [Text.hexadecimal, List.nil_append, List.cons_append] at hc ⊢
    simp only [readLong, hc, Option.bind_some]
  · next hq hb _ _ _ _ h =>
    exact readLong_cons (fun ds e => hq (List.cons.inj e).1) hb (by simpa using h)

theorem exists_escape (c : Char) :
    ∃ d ds, escape c = d :: ds ∧ d ≠ '"' ∧ d ≠ '\n' ∧ d ≠ '\r' := by
  unfold escape
  iterate 7
    split
    · exact ⟨_, _, rfl, by decide⟩
  split
  · exact ⟨_, _, rfl, by decide⟩
  · next hq _ hl hr _ _ _ _ => exact ⟨_, _, rfl, hq, hl, hr⟩

theorem readLong_longBody {k : Nat} (hk : k ≤ 2) (cs : List Char) {rest : List Char}
    (h : rest.head? ≠ some '"') :
    readLong false (List.replicate k '"' ++ (longBody k cs ++ '"' :: '"' :: '"' :: rest)) =
      some (List.replicate k '"' ++ cs, rest) := by
  induction cs generalizing k with
  | nil =>
    have e : List.replicate k '"' ++ '"' :: '"' :: '"' :: rest =
        '"' :: '"' :: '"' :: (List.replicate k '"' ++ rest) := by
      match k, hk with
      | 0, _ => rfl
      | 1, _ => rfl
      | 2, _ => rfl
    simp only [longBody, List.nil_append, List.append_nil]
    rw [e, readLong, closeLong_replicate hk h]
  | cons c cs ih =>
    have h0 := ih (Nat.zero_le 2)
    simp only [List.replicate_zero, List.nil_append] at h0
    unfold longBody
    split
    · next hc =>
      subst hc
      split
      · next h2 =>
        have := ih h2
        rw [List.replicate_succ', List.append_assoc, List.append_assoc] at this
        exact this
      · rw [List.cons_append, List.cons_append, readLong_replicate hk (by decide),
          readLong_escaped rfl, h0]
        simp [Taken.put]
    · split
      · next hl =>
        subst hl
        rw [List.cons_append, readLong_replicate hk (by decide),
          readLong_cons (by simp) (by decide) (by decide), h0]
        simp [Taken.put]
      · next hl =>
        obtain ⟨d, ds, e, hd, _⟩ := exists_escape c
        have hr := readLong_replicate hk hd (ds ++ (longBody 0 cs ++ '"' :: '"' :: '"' :: rest))
        rw [← List.cons_append, ← e] at hr
        rw [List.append_assoc, hr, readLong_escape hl, h0]
        simp [Taken.put]

/-! ### Long literal texts -/

theorem readLongLiteral_cons {c : Char} {cs : List Char}
    (h3 : ∀ ds, c :: cs ≠ '\'' :: '\'' :: '\'' :: ds) (hc : isControl c = false) :
    readLongLiteral (c :: cs) = (readLongLiteral cs).put [c] := by
  have hr : c ≠ '\r' := fun e => by rw [e] at hc; exact absurd hc (by decide)
  rw [readLongLiteral.eq_4]
  · simp [hc]
  · rintro ds rfl rfl; exact h3 ds rfl
  · intro _ e _; exact hr e

theorem readLongLiteral_append {cs rest : List Char} (hc : ∀ c ∈ cs, isControl c = false)
    (hn : noTriple '\'' cs = true) (h : rest.head? ≠ some '\'') :
    readLongLiteral (cs ++ '\'' :: '\'' :: '\'' :: rest) = some (cs, rest) := by
  induction cs with
  | nil =>
    have := closeLong_replicate (Nat.zero_le 2) h
    simpa [readLongLiteral] using this
  | cons c cs ih =>
    have hcs : ∀ d ∈ cs, isControl d = false := fun d hd => hc d (by simp [hd])
    by_cases h3 : ∃ ds, c :: (cs ++ '\'' :: '\'' :: '\'' :: rest) = '\'' :: '\'' :: '\'' :: ds
    · obtain ⟨ds, e⟩ := h3
      match cs with
      | [] =>
        simp only [List.nil_append, List.cons.injEq, true_and] at e
        obtain ⟨rfl, rfl⟩ := e
        exact congrArg some (closeLong_replicate (k := 1) (by decide) h)
      | [b] =>
        simp only [List.cons_append, List.nil_append, List.cons.injEq, true_and] at e
        obtain ⟨rfl, rfl, rfl⟩ := e
        exact congrArg some (closeLong_replicate (k := 2) (by decide) h)
      | b :: a :: cs =>
        simp only [List.cons_append, List.cons.injEq] at e
        simp [noTriple, e.1, e.2.1, e.2.2.1] at hn
    · have hn' : noTriple '\'' cs = true := by
        match cs with
        | [] => rfl
        | [b] => rfl
        | b :: a :: cs =>
          simp only [noTriple, Bool.and_eq_true] at hn
          exact hn.2
      rw [List.cons_append, readLongLiteral_cons (fun ds e => h3 ⟨ds, e⟩) (hc c (by simp)),
        ih hcs hn']
      rfl

/-! ### Every form -/

theorem afterOpening_opening {cs body : List Char}
    (h : '\n' ∉ cs → ∀ ds, body ≠ '\n' :: ds ∧ body ≠ '\r' :: '\n' :: ds) :
    afterOpening (opening cs ++ body) = body := by
  unfold opening
  split
  · rfl
  · next hl =>
    rw [List.nil_append]
    unfold afterOpening
    split
    · next ds => exact absurd rfl (h hl ds).1
    · next ds => exact absurd rfl (h hl ds).2
    · rfl

theorem readQuoted_basic (cs : List Char) {rest : List Char} (h : NoQuote rest) :
    readQuoted (Form.basic.write cs ++ rest) = some (cs, rest) := by
  have hb : readBasic (basicBody cs ++ '"' :: rest) = some (cs, rest) := readBasic_basicBody cs rest
  cases cs with
  | nil =>
    simp only [Form.write, basicBody, List.flatMap_nil, List.cons_append, List.nil_append] at hb ⊢
    rw [readQuoted.eq_3, hb]
    · rintro ds e
      simp only [List.cons.injEq, true_and] at e
      exact h.1 (by rw [e]; rfl)
  | cons c cs =>
    obtain ⟨d, ds, e, hd, _⟩ := exists_escape c
    simp only [Form.write, basicBody, List.flatMap_cons, e, List.cons_append, List.append_assoc,
      List.nil_append] at hb ⊢
    rw [readQuoted.eq_3, hb]
    rintro ds e
    simp only [List.cons.injEq] at e
    exact hd e.1

theorem readQuoted_literal {cs : List Char}
    (hc : ∀ c ∈ cs, c ≠ '\'' ∧ c ≠ '\n' ∧ isControl c = false) {rest : List Char}
    (h : NoQuote rest) : readQuoted (Form.literal.write cs ++ rest) = some (cs, rest) := by
  have hl := readLiteral_append hc rest
  simp only [Form.write, List.cons_append, List.append_assoc, List.nil_append]
  rw [readQuoted.eq_4, hl]
  rintro ds e
  cases cs with
  | nil =>
    simp only [List.nil_append, List.cons.injEq, true_and] at e
    exact h.2 (by rw [e]; rfl)
  | cons c cs =>
    simp only [List.cons_append, List.cons.injEq] at e
    exact (hc c (by simp)).1 e.1

theorem readQuoted_long (cs : List Char) {rest : List Char} (h : NoQuote rest) :
    readQuoted (Form.long.write cs ++ rest) = some (cs, rest) := by
  have hl := readLong_longBody (Nat.zero_le 2) cs h.1
  simp only [List.replicate_zero, List.nil_append] at hl
  simp only [Form.write, List.cons_append, List.append_assoc, List.nil_append]
  rw [readQuoted, afterOpening_opening, hl]
  intro hn ds
  cases cs with
  | nil => simp [longBody]
  | cons c cs =>
    obtain ⟨d, es, e, _, hd, hr⟩ := exists_escape c
    have hcn : c ≠ '\n' := fun e => hn (by simp [e])
    by_cases hq : c = '"'
    · simp [longBody, hq]
    · simp [longBody, hq, hcn, e, hd, hr]

theorem readQuoted_longLiteral {cs : List Char} (hc : ∀ c ∈ cs, isControl c = false)
    (hn : noTriple '\'' cs = true) {rest : List Char} (h : NoQuote rest) :
    readQuoted (Form.longLiteral.write cs ++ rest) = some (cs, rest) := by
  simp only [Form.write, List.cons_append, List.append_assoc, List.nil_append]
  rw [readQuoted, afterOpening_opening, readLongLiteral_append hc hn h.2]
  intro hl ds
  cases cs with
  | nil => simp
  | cons c cs =>
    have hr : c ≠ '\r' := fun e => by
      have := hc c (by simp)
      rw [e] at this
      exact absurd this (by decide)
    have hcn : c ≠ '\n' := fun e => hl (by simp [e])
    simp [hr, hcn]

theorem of_formOf_eq_literal {cs : List Char} (h : formOf cs = .literal) :
    ∀ c ∈ cs, c ≠ '\'' ∧ c ≠ '\n' ∧ isControl c = false := by
  simp only [formOf] at h
  split at h
  · contradiction
  split at h
  · next hc =>
    simp only [Bool.and_eq_true, Bool.not_eq_true', List.any_eq_false,
      decide_eq_false_iff_not] at hc
    exact fun c hm => ⟨fun e => hc.2 (e ▸ hm), fun e => hc.1.2 (e ▸ hm), by simpa using hc.1.1 c hm⟩
  iterate 3
    split at h
    · contradiction
  contradiction

theorem of_formOf_eq_longLiteral {cs : List Char} (h : formOf cs = .longLiteral) :
    (∀ c ∈ cs, isControl c = false) ∧ noTriple '\'' cs = true := by
  simp only [formOf] at h
  iterate 3
    split at h
    · contradiction
  split at h
  · next hc =>
    simp only [Bool.and_eq_true, Bool.not_eq_true', List.any_eq_false] at hc
    exact ⟨fun c hm => by simpa using hc.1 c hm, hc.2⟩
  split at h
  · contradiction
  · contradiction

/-- **Reading takes the text and its quotes and leaves what follows.** -/
theorem readQuoted_quoted (cs : List Char) {rest : List Char} (h : NoQuote rest) :
    readQuoted (quoted cs ++ rest) = some (cs, rest) := by
  unfold quoted
  cases hf : formOf cs with
  | basic => exact readQuoted_basic cs h
  | literal => exact readQuoted_literal (of_formOf_eq_literal hf) h
  | long => exact readQuoted_long cs h
  | longLiteral =>
    have ⟨hc, hn⟩ := of_formOf_eq_longLiteral hf
    exact readQuoted_longLiteral hc hn h

end PortRoster.Toml
