import Mathlib.Data.List.TakeWhile
import Mathlib.Tactic.SplitIfs
import PortRoster.CommandLine.Program
import PortRoster.Proofs.PortId

/-! # The language of a run

The language of a run is chosen before its line is read, by a scan that knows nothing of options and
their values. On a line that is accepted the scan goes right all the same: no part that looks like a
request is the value of another option or an argument, since these do not begin with two dashes, and
of the requests on both levels the last one counts, as it does for the reader.

The scan begins one part too early. It also looks at the name under which the program was called,
and a name that looks like a request is taken for one. So the scan and the reader agree if the name
is none, or if a later part of the line asks for a language.

The reader is followed part by part. What a level has been given so far is its `language`. Together
with a value that the option still waits for, it is what the level is `known` to ask for, and each
part changes that by its own request alone.

* `Level.known_readPart`: one part.
* `lang_readLevel`: a level.
* `lang_of_parse`: the scan of the line finds what it is read to ask for.
* `languageOf_parse`: the language in which the line is carried out. -/

namespace PortRoster.CommandLine

/-! ### Requests in a line -/

/-- The request that a part of a line makes, with what follows it. -/
def requestAt (text : String) (rest : List String) : Option String :=
  match attachedLanguage? text with
  | some l => some l
  | none => if text = "--lang" then rest.head? else none

theorem lastRequest?_cons (text : String) (rest : List String) :
    lastRequest? (text :: rest) = (lastRequest? rest).or (requestAt text rest) := rfl

theorem attachedLanguage?_eq_some_iff {text l : String} :
    attachedLanguage? text = some l ↔ text.toList = "--lang=".toList ++ l.toList := by
  unfold attachedLanguage?
  rw [Option.map_eq_some_iff]
  constructor
  · rintro ⟨cs, hcs, rfl⟩
    rw [Text.afterStart?_eq_some_iff.1 hcs, String.toList_ofList (l := cs)]
  · intro h
    exact ⟨l.toList, Text.afterStart?_eq_some_iff.2 h, String.ofList_toList⟩

/-- A part of a line that asks for a language, by itself or with what follows it. -/
def AsksForLanguage (text : String) : Prop := text = "--lang" ∨ (attachedLanguage? text).isSome

instance (text : String) : Decidable (AsksForLanguage text) :=
  inferInstanceAs (Decidable (text = "--lang" ∨ (attachedLanguage? text).isSome))

theorem requestAt_of_not_asks {text : String} (h : ¬ AsksForLanguage text) (rest : List String) :
    requestAt text rest = none := by
  obtain ⟨hname, hattached⟩ := not_or.1 h
  rw [requestAt, Option.not_isSome_iff_eq_none.1 hattached]
  exact if_neg hname

theorem requestAt_eq_none {text : String} (h : ∀ cs, text.toList ≠ '-' :: '-' :: cs)
    (rest : List String) : requestAt text rest = none := by
  unfold requestAt
  split
  · next l hl => exact absurd (attachedLanguage?_eq_some_iff.1 hl) (h _)
  · exact if_neg fun ht => h "lang".toList (by rw [ht]; rfl)

theorem requestAt_attached {text : String} {name value : List Char}
    (h : text.toList = '-' :: '-' :: (name ++ '=' :: value)) (hname : '=' ∉ name)
    (rest : List String) :
    requestAt text rest = if name = "lang".toList then some (String.ofList value) else none := by
  have hcut {n v : List Char} (hn : '=' ∉ n) : (n ++ '=' :: v).takeWhile (· != '=') = n :=
    Text.takeWhile_run (fun c hc => bne_iff_ne.2 fun he => hn (he ▸ hc)) (Text.stops_cons rfl)
  by_cases hl : name = "lang".toList
  · have hrequest : attachedLanguage? text = some (String.ofList value) := by
      rw [attachedLanguage?_eq_some_iff, h, hl, String.toList_ofList (l := value)]
      rfl
    rw [if_pos hl, requestAt, hrequest]
  · have hnone : attachedLanguage? text = none := by
      refine Option.eq_none_iff_forall_ne_some.2 fun l hrequest => hl ?_
      rw [attachedLanguage?_eq_some_iff, h] at hrequest
      have hsame : name ++ '=' :: value = "lang".toList ++ '=' :: l.toList :=
        (List.cons.inj (List.cons.inj hrequest).2).2
      rw [← hcut hname (v := value), hsame, hcut (by decide)]
    have hne : text ≠ "--lang" := by
      rintro rfl
      have hsame : "lang".toList = name ++ '=' :: value := (List.cons.inj (List.cons.inj h).2).2
      exact absurd (hsame ▸ List.mem_append_right name List.mem_cons_self) (by decide)
    rw [if_neg hl, requestAt, hnone, if_neg hne]

theorem requestAt_name {text : String} {name : List Char}
    (h : text.toList = '-' :: '-' :: name) (hname : '=' ∉ name) (rest : List String) :
    requestAt text rest = if name = "lang".toList then rest.head? else none := by
  have hnone : attachedLanguage? text = none := by
    refine Option.eq_none_iff_forall_ne_some.2 fun l hrequest => hname ?_
    rw [attachedLanguage?_eq_some_iff, h] at hrequest
    have hsame : name = "lang=".toList ++ l.toList := (List.cons.inj (List.cons.inj hrequest).2).2
    rw [hsame]
    exact List.mem_append_left _ (by decide)
  have hiff : text = "--lang" ↔ name = "lang".toList := by
    rw [← String.toList_inj, h]
    exact ⟨fun he => (List.cons.inj (List.cons.inj he).2).2, fun he => by rw [he]; rfl⟩
  rw [requestAt, hnone]
  simp only [hiff]

namespace Values

variable {vs vs' : Values}

theorem lang_take {giver : Giver} {o : Opt} {text : String} (h : vs.take giver o text = some vs') :
    vs'.lang = if o = .lang then some ⟨giver, text⟩ else vs.lang := by
  unfold take at h
  cases o <;> simp only [Option.map_eq_some_iff, reduceCtorEq] at h
  all_goals obtain ⟨v, hv, rfl⟩ := h
  case lang =>
    unfold give at hv
    split at hv <;> simp_all
  all_goals rfl

theorem lang_raise {o : Opt} (h : vs.raise o = some vs') : vs'.lang = vs.lang := by
  cases o <;> simp only [raise, Option.map_eq_some_iff, Option.some.injEq, reduceCtorEq] at h
  case verbose => exact h ▸ rfl
  all_goals obtain ⟨v, -, rfl⟩ := h
  all_goals rfl

theorem lang_takeArgument {place : Place} {text : String}
    (h : vs.takeArgument place text = some vs') : vs'.lang = vs.lang := by
  unfold takeArgument at h
  split at h <;> simp only [Option.map_eq_some_iff, reduceCtorEq] at h
  all_goals obtain ⟨v, -, rfl⟩ := h
  all_goals rfl

end Values

/-! ### Steps of a level -/

theorem orUsage_eq_ok {α : Type} {o : Option α} {a : α} : orUsage o = .ok a ↔ o = some a := by
  cases o <;> simp [orUsage]

theorem bind_eq_ok {α β : Type} {x : Except Stop α} {f : α → Except Stop β} {b : β} :
    (x >>= f) = .ok b ↔ ∃ a, x = .ok a ∧ f a = .ok b := by
  cases x <;> simp [bind, Except.bind]

namespace Level

variable {place : Place} {s t : Level} {vs : Values}

/-- The language that a level has been given, a pending value of the option among it. -/
def language (s : Level) : Option (Given String) :=
  match s.pending with
  | .value .lang text => some ⟨.user, text⟩
  | _ => s.values.lang

/-- The language that a level is given when the option's value is the next part of the line. -/
def known (s : Level) (parts : List String) : Option (Given String) :=
  ((if s.awaits? = some .lang then parts.head? else none).map (Given.mk .user)).or s.language

theorem known_of_awaits? (h : s.awaits? ≠ some .lang) (parts : List String) :
    s.known parts = s.language := by
  rw [known, if_neg h]
  rfl

theorem of_settle (h : s.settle place = .ok vs) : s.awaits? = none ∧ vs.lang = s.language := by
  unfold settle at h
  unfold awaits? language
  cases hp : s.pending <;> simp only [hp, Except.ok.injEq, reduceCtorEq, orUsage_eq_ok] at h ⊢
  case nothing => exact ⟨trivial, h ▸ rfl⟩
  case argument text => exact ⟨trivial, Values.lang_takeArgument h⟩
  case value o text =>
    refine ⟨trivial, ?_⟩
    rw [Values.lang_take h]
    cases o <;> rfl

theorem afterValue_eq_ok {values : Option Values} (h : s.afterValue values = .ok t) :
    ∃ vs, values = some vs ∧ t = { s with values := vs, pending := .nothing } := by
  unfold afterValue at h
  cases values with
  | none => cases h
  | some vs => exact ⟨vs, rfl, (Except.ok.inj h).symm⟩

theorem ofShort?_ne_lang {c : Char} {o : Opt} (h : place.ofShort? c = some o) : o ≠ .lang := by
  rintro rfl
  cases List.find?_some h

theorem ofLong?_eq_lang {name : String} (h : place.ofLong? name = some .lang) : name = "lang" := by
  have hname := List.find?_some h
  exact (eq_of_beq hname).symm

theorem ofLong?_lang : place.ofLong? "lang" = some .lang :=
  place.ofLong?_long .lang (by cases place with
    | none => decide
    | some c => cases c <;> decide)

theorem of_afterValue_take {o : Opt} {text : String} (hs : s.settle place = .ok vs)
    (h : s.afterValue (vs.take .user o text) = .ok t) :
    t.awaits? = none ∧
      t.language = if o = .lang then some ⟨.user, text⟩ else s.language := by
  obtain ⟨vs', hvs', rfl⟩ := afterValue_eq_ok h
  refine ⟨rfl, ?_⟩
  rw [← (of_settle hs).2, ← Values.lang_take hvs']
  rfl

theorem of_afterValue_raise {o : Opt} (hs : s.settle place = .ok vs)
    (h : s.afterValue (vs.raise o) = .ok t) : t.awaits? = none ∧ t.language = s.language := by
  obtain ⟨vs', hvs', rfl⟩ := afterValue_eq_ok h
  refine ⟨rfl, ?_⟩
  rw [← (of_settle hs).2, ← Values.lang_raise hvs']
  rfl

theorem readShort_cons {c : Char} {cs : List Char} (h : s.readShort place (c :: cs) = .ok t) :
    ∃ o vs, place.ofShort? c = some o ∧ s.settle place = .ok vs ∧
      (t = { s with values := vs, pending := .option o } ∨
        (∃ text, s.afterValue (vs.take .user o text) = .ok t) ∨
        ∃ u, s.afterValue (vs.raise o) = .ok u ∧ u.readShort place cs = .ok t) := by
  unfold readShort at h
  split at h
  · obtain ⟨_, -, h⟩ := bind_eq_ok.1 h
    cases h
  · split at h
    · cases h
    · next o ho =>
      obtain ⟨vs, hvs, h⟩ := bind_eq_ok.1 h
      refine ⟨o, vs, ho, hvs, ?_⟩
      split at h
      · split at h
        · exact .inl (Except.ok.inj h).symm
        · exact .inr (.inl ⟨_, h⟩)
        · exact .inr (.inl ⟨_, h⟩)
      · exact .inr (.inr (bind_eq_ok.1 h))

/-- No letter is short for the option, so letters leave the language alone. -/
theorem language_readShort {cs : List Char} (h : s.readShort place cs = .ok t)
    (ha : s.awaits? ≠ some .lang) : t.awaits? ≠ some .lang ∧ t.language = s.language := by
  induction cs generalizing s with
  | nil =>
    cases h
    exact ⟨ha, rfl⟩
  | cons c cs ih =>
    obtain ⟨o, vs, ho, hs, rfl | ⟨text, h⟩ | ⟨u, hu, h⟩⟩ := readShort_cons h
    · exact ⟨fun h => ofShort?_ne_lang ho (Option.some.inj h), (of_settle hs).2⟩
    · obtain ⟨hw, hl⟩ := of_afterValue_take hs h
      rw [if_neg (ofShort?_ne_lang ho)] at hl
      exact ⟨by simp [hw], hl⟩
    · obtain ⟨hw, hl⟩ := of_afterValue_raise hs hu
      obtain ⟨hw', hl'⟩ := ih h (by simp [hw])
      exact ⟨hw', hl'.trans hl⟩

theorem readLong_eq_ok {name : List Char} {value : Option (List Char)}
    (h : s.readLong place name value = .ok t) :
    ∃ o vs, (o = .lang ↔ name = "lang".toList) ∧ s.settle place = .ok vs ∧
      ((∃ text, value = some text ∧
          s.afterValue (vs.take .user o (String.ofList text)) = .ok t) ∨
        (value = none ∧ t = { s with values := vs, pending := .option o }) ∨
        value = none ∧ o.takesValue = false ∧ s.afterValue (vs.raise o) = .ok t) := by
  have hlang {o : Opt} (ho : place.ofLong? (String.ofList name) = some o) :
      o = .lang ↔ name = "lang".toList := by
    constructor
    · rintro rfl
      rw [← String.toList_ofList (l := name), ofLong?_eq_lang ho]
    · rintro rfl
      exact Option.some.inj (ho.symm.trans ofLong?_lang)
  simp only [readLong] at h
  split at h
  · split at h
    · cases h
    · obtain ⟨_, -, h⟩ := bind_eq_ok.1 h
      cases h
  · split at h
    · cases h
    · next o text ho =>
      split at h
      · obtain ⟨vs, hvs, h⟩ := bind_eq_ok.1 h
        exact ⟨o, vs, hlang ho, hvs, .inl ⟨text, rfl, h⟩⟩
      · cases h
    · next o ho =>
      obtain ⟨vs, hvs, h⟩ := bind_eq_ok.1 h
      refine ⟨o, vs, hlang ho, hvs, .inr ?_⟩
      split at h
      · exact .inl ⟨rfl, (Except.ok.inj h).symm⟩
      · next htakes => exact .inr ⟨rfl, by simpa using htakes, h⟩

theorem language_readLong_value {name text : List Char}
    (h : s.readLong place name (some text) = .ok t) :
    s.awaits? = none ∧ t.awaits? = none ∧ t.language =
      if name = "lang".toList then some ⟨.user, String.ofList text⟩ else s.language := by
  obtain ⟨o, vs, ho, hs, ⟨text, ⟨⟩, h⟩ | ⟨⟨⟩, -⟩ | ⟨⟨⟩, -⟩⟩ := readLong_eq_ok h
  obtain ⟨hw, hl⟩ := of_afterValue_take hs h
  simp only [ho] at hl
  exact ⟨(of_settle hs).1, hw, hl⟩

theorem language_readLong_name {name : List Char} (h : s.readLong place name none = .ok t) :
    s.awaits? = none ∧ (t.awaits? = some .lang ↔ name = "lang".toList) ∧
      t.language = s.language := by
  obtain ⟨o, vs, ho, hs, ⟨_, ⟨⟩, -⟩ | ⟨-, rfl⟩ | ⟨-, htakes, h⟩⟩ := readLong_eq_ok h
  · exact ⟨(of_settle hs).1, Option.some_inj.trans ho, (of_settle hs).2⟩
  · obtain ⟨hw, hl⟩ := of_afterValue_raise hs h
    refine ⟨(of_settle hs).1, ?_, hl⟩
    rw [← ho, hw]
    constructor
    · rintro ⟨⟩
    · rintro rfl
      cases htakes

theorem readArgument_eq_ok {text : String} (h : s.readArgument place text = .ok t) :
    ∃ vs, place.takesArgument ∧ s.argumentRead = false ∧ s.settle place = .ok vs ∧
      t = { values := vs, pending := .argument text, argumentRead := true } := by
  unfold readArgument at h
  split at h
  · next hfree =>
    obtain ⟨vs, hvs, h⟩ := bind_eq_ok.1 h
    exact ⟨vs, hfree.1, by simpa using hfree.2, hvs, (Except.ok.inj h).symm⟩
  · cases h

/-- **A part gives a level the language that it asks for**, and no other part does. -/
theorem known_readPart {text : String} (h : s.readPart place text = .ok t) (rest : List String) :
    t.known rest = ((requestAt text rest).map (Given.mk .user)).or (s.known (text :: rest)) := by
  unfold readPart at h
  split at h
  · next cs htext =>
    have hcs := List.takeWhile_append_dropWhile (p := (· != '=')) (l := cs)
    have hname : '=' ∉ cs.takeWhile (· != '=') := fun hmem =>
      absurd (List.mem_takeWhile_imp hmem) (by decide)
    simp only at h
    split at h
    · next c value hvalue =>
      have hc : c = '=' := by
        have := Text.not_head_dropWhile cs c (p := (· != '=')) (by rw [hvalue]; rfl)
        simpa using this
      rw [hvalue, hc] at hcs
      obtain ⟨hs, hw, hl⟩ := language_readLong_value h
      rw [requestAt_attached (by rw [htext, hcs]) hname, known_of_awaits? (by simp [hw]),
        known_of_awaits? (by simp [hs]), hl]
      split_ifs <;> rfl
    · next hvalue =>
      rw [hvalue, List.append_nil] at hcs
      obtain ⟨hs, hw, hl⟩ := language_readLong_name h
      rw [requestAt_name (by rw [htext, hcs]) hname, known_of_awaits? (s := s) (by simp [hs]),
        known, hl]
      simp only [hw]
  · next c cs hnot htext =>
    obtain ⟨o, vs, -, hs, -⟩ := readShort_cons h
    have hawaits := (of_settle hs).1
    obtain ⟨hw, hl⟩ := language_readShort h (by simp [hawaits])
    rw [requestAt_eq_none, known_of_awaits? hw, known_of_awaits? (by simp [hawaits]), hl]
    · rfl
    · intro ds hds
      rw [htext] at hds
      exact hnot (List.cons.inj (List.cons.inj hds).2).1
  · next hplain _ =>
    rw [requestAt_eq_none hplain]
    split at h
    · next o ho =>
      cases h
      obtain ⟨vs, pending, read⟩ := s
      cases pending <;> cases ho
      cases o <;> rfl
    · next hawaits =>
      obtain ⟨vs, -, -, hs, rfl⟩ := readArgument_eq_ok h
      rw [known_of_awaits? (s := s) (by simp [hawaits]), ← (of_settle hs).2]
      rfl

end Level

theorem not_dashed_of_takeArgument {vs vs' : Values} {place : Place} {text : String}
    (h : vs.takeArgument place text = some vs') (cs : List Char) : text.toList ≠ '-' :: cs := by
  intro hdash
  unfold Values.takeArgument at h
  split at h
  · obtain ⟨raw, hraw, -⟩ := Option.map_eq_some_iff.1 h
    cases hread : PortId.parseRaw text with
    | error e => rw [hread] at hraw; cases hraw
    | ok w => exact PortId.parseRaw_dash hdash w hread
  · obtain ⟨shell, hshell, -⟩ := Option.map_eq_some_iff.1 h
    have hname := List.find?_some hshell
    rw [← eq_of_beq hname] at hdash
    cases shell <;> cases hdash
  all_goals cases h

/-! ### A level -/

/-- What follows the part of a line that ends a level. -/
def Ending.rest : Ending → List String
  | .line => []
  | .command _ rest | .help rest => rest

theorem requestAt_dashes (rest : List String) : requestAt "--" rest = none :=
  requestAt_name rfl List.not_mem_nil rest

theorem requestAt_command {text : String} {c : Command} (h : Command.ofName? text = some c)
    (rest : List String) : requestAt text rest = none := by
  have hname := List.find?_some h
  rw [← eq_of_beq hname]
  cases c <;> rfl

theorem readLevel_cons {place : Place} {s t : Level} {text : String} {rest : List String}
    {e : Ending} (h : readLevel place false s (text :: rest) = .ok (t, e)) :
    (place = none ∧ t = s ∧ (text = helpName ∨ ∃ c, Command.ofName? text = some c) ∧
        e.rest = rest) ∨
      (text = "--" ∧ readLevel place true s rest = .ok (t, e)) ∨
      ∃ u, s.readPart place text = .ok u ∧ readLevel place false u rest = .ok (t, e) := by
  unfold readLevel at h
  split at h
  · next hhelp =>
    cases h
    exact .inl ⟨by simpa using hhelp.1, rfl, .inl hhelp.2.2, rfl⟩
  · split at h
    · next c hc =>
      cases h
      have hcommand : place.isNone ∧ s.awaits?.isNone := by
        by_contra hno
        rw [if_neg hno] at hc
        cases hc
      rw [if_pos hcommand] at hc
      exact .inl ⟨by simpa using hcommand.1, rfl, .inr ⟨c, hc⟩, rfl⟩
    · split at h
      · next hdashes => exact .inr (.inl ⟨hdashes, h⟩)
      · exact .inr (.inr (bind_eq_ok.1 h))

/-- Behind two dashes alone there is one argument at most, and it begins with no dash. -/
theorem readLevel_plain {place : Place} {s t : Level} {parts : List String} {e : Ending}
    {vs : Values} (h : readLevel place true s parts = .ok (t, e)) (ht : t.settle place = .ok vs) :
    s.awaits? = none ∧ e = .line ∧ vs.lang = s.language ∧
      (parts = [] ∨ ∃ text, parts = [text] ∧ ∀ cs, text.toList ≠ '-' :: cs) := by
  match parts with
  | [] =>
    cases h
    exact ⟨(Level.of_settle ht).1, rfl, (Level.of_settle ht).2, .inl rfl⟩
  | text :: rest =>
    obtain ⟨u, hu, h⟩ := bind_eq_ok.1 h
    obtain ⟨vs', -, -, hs, rfl⟩ := Level.readArgument_eq_ok hu
    match rest with
    | [] =>
      cases h
      have hdashed := not_dashed_of_takeArgument (orUsage_eq_ok.1 ht)
      refine ⟨(Level.of_settle hs).1, rfl, ?_, .inr ⟨text, rfl, hdashed⟩⟩
      rw [(Level.of_settle ht).2, ← (Level.of_settle hs).2]
      rfl
    | more :: rest =>
      obtain ⟨u, hu, -⟩ := bind_eq_ok.1 h
      obtain ⟨-, -, hread, -⟩ := Level.readArgument_eq_ok hu
      cases hread

/-- **A level has the language that the last request on it asks for.** What follows the level makes
the later requests. -/
theorem lang_readLevel {place : Place} {s t : Level} {parts : List String} {e : Ending}
    {vs : Values} (h : readLevel place false s parts = .ok (t, e)) (ht : t.settle place = .ok vs) :
    ∃ here, lastRequest? parts = (lastRequest? e.rest).or here ∧
      vs.lang = (here.map (Given.mk .user)).or (s.known parts) := by
  have hknown {u : Level} (hu : u.awaits? = none) (hl : vs.lang = u.language)
      (parts : List String) : vs.lang = ((none : Option String).map (Given.mk .user)).or
        (u.known parts) := by
    rw [Level.known_of_awaits? (by simp [hu]), hl]
    rfl
  -- The induction is on the parts; `known` carries a value that an option still waits for.
  induction parts generalizing s with
  | nil =>
    cases h
    obtain ⟨hs, hl⟩ := Level.of_settle ht
    exact ⟨none, rfl, hknown hs hl _⟩
  | cons text rest ih =>
    rcases readLevel_cons h with ⟨-, rfl, htext, he⟩ | ⟨rfl, hplain⟩ | ⟨u, hu, h⟩
    · obtain ⟨hs, hl⟩ := Level.of_settle ht
      have hnone : requestAt text rest = none := by
        rcases htext with rfl | ⟨c, hc⟩
        · rfl
        · exact requestAt_command hc rest
      refine ⟨none, ?_, hknown hs hl _⟩
      rw [lastRequest?_cons, hnone, he]
    · obtain ⟨hs, rfl, hl, hrest⟩ := readLevel_plain hplain ht
      have hnone : lastRequest? rest = none := by
        rcases hrest with rfl | ⟨text, rfl, htext⟩
        · rfl
        · rw [lastRequest?_cons, requestAt_eq_none fun cs => htext ('-' :: cs)]
          rfl
      refine ⟨none, ?_, hknown hs hl _⟩
      rw [lastRequest?_cons, requestAt_dashes, hnone]
      rfl
    · obtain ⟨here, hrest, hl⟩ := ih h
      refine ⟨here.or (requestAt text rest), ?_, ?_⟩
      · rw [lastRequest?_cons, hrest, Option.or_assoc]
      · rw [hl, Level.known_readPart hu, Option.map_or, Option.or_assoc]

theorem rest_readLevel_command {c : Command} {s t : Level} {parts : List String} {e : Ending}
    {vs : Values} (h : readLevel (some c) false s parts = .ok (t, e))
    (ht : t.settle (some c) = .ok vs) : e.rest = [] := by
  induction parts generalizing s with
  | nil =>
    cases h
    rfl
  | cons text rest ih =>
    rcases readLevel_cons h with ⟨hplace, -⟩ | ⟨-, h⟩ | ⟨u, -, h⟩
    · cases hplace
    · rw [(readLevel_plain h ht).2.1]
      rfl
    · exact ih h

/-! ### Values from the environment -/

namespace Values

variable {env : String → Option String} {vs vs' : Values}

theorem lang_fillFrom {o : Opt} (h : vs.fillFrom env o = some vs') :
    vs'.lang = if o = .lang then
      vs.lang.or ((env languageVariable).map (Given.mk .environment)) else vs.lang := by
  unfold fillFrom at h
  split at h
  · next hhas =>
    cases h
    split_ifs with ho
    · subst ho
      obtain ⟨g, hg⟩ := Option.isSome_iff_exists.1 (show vs.lang.isSome from hhas)
      rw [hg]
      rfl
    · rfl
  · next hhas =>
    split at h
    · next text htext =>
      rw [lang_take h]
      split_ifs with ho
      · subst ho
        have hnone : vs.lang = none := by simpa [has] using hhas
        have henv : env languageVariable = some text := htext
        rw [hnone, henv]
        rfl
      · rfl
    · next htext =>
      cases h
      split_ifs with ho
      · subst ho
        have henv : env languageVariable = none := htext
        rw [henv, Option.map_none, Option.or_none]
      · rfl

/-- **The environment names the language where the line does not.** -/
theorem lang_fill (h : vs.fill env = some vs') :
    vs'.lang = vs.lang.or ((env languageVariable).map (Given.mk .environment)) := by
  have hfold (os : List Opt) {vs : Values} (hos : os.foldlM (fillFrom env) vs = some vs') :
      vs'.lang = if .lang ∈ os then
        vs.lang.or ((env languageVariable).map (Given.mk .environment)) else vs.lang := by
    induction os generalizing vs with
    | nil =>
      cases hos
      rfl
    | cons o os ih =>
      obtain ⟨u, hu, hos⟩ := Option.bind_eq_some_iff.1 hos
      rw [ih hos, lang_fillFrom hu]
      by_cases ho : o = .lang
      · subst ho
        simp [Option.or_assoc]
      · simp [ho, Ne.symm ho]
  exact hfold Opt.globals h

end Values

/-! ### Both levels -/

/-- A line that is accepted has a level before the command and one behind it, and the environment
stands in on both. -/
theorem parse_eq_ok {env : String → Option String} {args : List String} {i : Invocation}
    (h : parse env args = .ok i) :
    ∃ c rest s t e outer inner outerFilled innerFilled request,
      readLevel none false {} args = .ok (s, .command c rest) ∧ s.settle none = .ok outer ∧
      readLevel (some c) false {} rest = .ok (t, e) ∧ t.settle (some c) = .ok inner ∧
      outer.fill env = some outerFilled ∧ inner.fill env = some innerFilled ∧
      i = invocationOf request outerFilled innerFilled := by
  obtain ⟨⟨s, ending⟩, hs, h⟩ := bind_eq_ok.1 h
  cases ending with
  | line =>
    obtain ⟨_, -, h⟩ := bind_eq_ok.1 h
    obtain ⟨_, -, h⟩ := bind_eq_ok.1 h
    cases h
  | help rest => cases h
  | command c rest =>
    obtain ⟨⟨t, e⟩, ht, h⟩ := bind_eq_ok.1 h
    obtain ⟨inner, hinner, h⟩ := bind_eq_ok.1 h
    obtain ⟨innerFilled, hinnerFilled, h⟩ := bind_eq_ok.1 h
    obtain ⟨request, -, h⟩ := bind_eq_ok.1 h
    obtain ⟨outer, houter, h⟩ := bind_eq_ok.1 h
    obtain ⟨outerFilled, houterFilled, h⟩ := bind_eq_ok.1 h
    cases h
    exact ⟨c, rest, s, t, e, outer, inner, outerFilled, innerFilled, request, hs, houter, ht, hinner,
      orUsage_eq_ok.1 houterFilled, orUsage_eq_ok.1 hinnerFilled, rfl⟩

theorem stronger_requests (outer inner env : Option String) :
    (stronger ((outer.map (Given.mk .user)).or (env.map (Given.mk .environment)))
      ((inner.map (Given.mk .user)).or (env.map (Given.mk .environment)))).map Given.value =
      (inner.or outer).or env := by
  cases outer <;> cases inner <;> cases env <;> rfl

/-- **The scan of the parts finds the language that the line is read to have.** -/
theorem lang_of_parse {env : String → Option String} {args : List String} {i : Invocation}
    (h : parse env args = .ok i) : i.lang = (lastRequest? args).or (env languageVariable) := by
  obtain ⟨c, rest, s, t, e, outer, inner, outerFilled, innerFilled, request, hs, houter, ht, hinner,
    houterFilled, hinnerFilled, rfl⟩ := parse_eq_ok h
  have hstart (parts : List String) : ({} : Level).known parts = none := rfl
  obtain ⟨before, hargs, hlouter⟩ := lang_readLevel hs houter
  obtain ⟨behind, hrest, hlinner⟩ := lang_readLevel ht hinner
  have hrest : lastRequest? rest = behind := by
    rw [hrest, rest_readLevel_command ht hinner]
    rfl
  have hargs : lastRequest? args = behind.or before := by
    rw [hargs, ← hrest]
    rfl
  rw [hstart, Option.or_none] at hlouter hlinner
  show (stronger outerFilled.lang innerFilled.lang).map Given.value =
    (lastRequest? args).or (env languageVariable)
  rw [Values.lang_fill houterFilled, Values.lang_fill hinnerFilled, hlouter, hlinner,
    stronger_requests, hargs]

/-! ### Lines that ask for help -/

/-- The part asks for a help page, whatever the rest of the line is. -/
def AsksForHelp (text : String) : Prop := text = "-h" ∨ text = "--help"

instance (text : String) : Decidable (AsksForHelp text) :=
  inferInstanceAs (Decidable (text = "-h" ∨ text = "--help"))

theorem not_asksForHelp_of_readPart {place : Place} {s t : Level} {text : String}
    (h : s.readPart place text = .ok t) : ¬ AsksForHelp text := by
  rintro (rfl | rfl) <;> cases hs : s.settle place <;>
    simp [Level.readPart, Level.readShort, Level.readLong, hs, bind, Except.bind] at h

theorem not_asksForHelp_of_readLevel {place : Place} {s t : Level} {parts : List String}
    {e : Ending} {vs : Values} (h : readLevel place false s parts = .ok (t, e))
    (ht : t.settle place = .ok vs) : ∀ text ∈ parts, AsksForHelp text → text ∈ e.rest := by
  induction parts generalizing s with
  | nil => exact fun _ hmem => absurd hmem List.not_mem_nil
  | cons first rest ih =>
    intro text hmem hhelp
    rcases readLevel_cons h with ⟨-, rfl, hfirst, he⟩ | ⟨rfl, hplain⟩ | ⟨u, hu, h⟩
    · rcases List.mem_cons.1 hmem with rfl | hmem
      · have hno : ¬ AsksForHelp text := by
          rcases hfirst with rfl | ⟨c, hc⟩
          · decide
          · rintro (rfl | rfl) <;> cases hc
        exact absurd hhelp hno
      · rwa [he]
    · have hno : ¬ AsksForHelp text := by
        obtain ⟨-, -, -, rfl | ⟨argument, rfl, hdashed⟩⟩ := readLevel_plain hplain ht
        · rw [List.mem_singleton.1 hmem]
          decide
        · rcases List.mem_cons.1 hmem with rfl | hmem
          · decide
          · rw [List.mem_singleton.1 hmem]
            rintro (rfl | rfl) <;> exact hdashed _ rfl
      exact absurd hhelp hno
    · rcases List.mem_cons.1 hmem with rfl | hmem
      · exact absurd hhelp (not_asksForHelp_of_readPart hu)
      · exact ih h text hmem hhelp

/-- **A line that is accepted asks for no help page**, so a run carries it out, unless the name of
the program asks for one. -/
theorem run_of_parse {host : Host} {name : String} {args : List String} {i : Invocation}
    (h : parse host.env args = .ok i) (hname : ¬ AsksForHelp name) :
    run host (name :: args) = execute host (languageOf host.env (name :: args)) i := by
  obtain ⟨c, rest, s, t, e, outer, inner, _, _, _, hs, houter, ht, hinner, -⟩ := parse_eq_ok h
  have hargs (text : String) (hmem : text ∈ args) : ¬ AsksForHelp text := by
    intro hask
    have hrest := not_asksForHelp_of_readLevel hs houter text hmem hask
    have hend := not_asksForHelp_of_readLevel ht hinner text hrest hask
    rw [rest_readLevel_command ht hinner] at hend
    cases hend
  have hhelp : wantsHelp (name :: args) = false := by
    rw [wantsHelp, Bool.or_eq_false_iff]
    constructor
    · cases args with
      | nil => cases hs
      | cons => exact decide_eq_false (by simp)
    · rw [List.any_eq_false]
      intro text hmem hask
      have hask : AsksForHelp text := by simpa [AsksForHelp] using hask
      rcases List.mem_cons.1 hmem with rfl | hmem
      · exact hname hask
      · exact hargs text hmem hask
  have hparse : parse host.env (name :: args).tail = .ok i := h
  simp only [run, hhelp, hparse, Bool.false_eq_true, if_false]

/-- **A run speaks the language of the line that it carries out.** The language is chosen by a scan
of the whole line, the name of the program included, before the line is read. Where the line is
accepted, the scan finds the language that the line is read to have, from the last level that names
it or from the environment, and finds none where the line has none. So the line is carried out in
that language, or in the one of the system. The name must not look like a request, unless the line
has one of its own. -/
theorem languageOf_parse {host : Host} {name : String} {args : List String} {i : Invocation}
    (h : parse host.env args = .ok i)
    (hname : ¬ AsksForLanguage name ∨ (lastRequest? args).isSome) :
    requestedLanguage? host.env (name :: args) = i.lang ∧
    (∀ l, i.lang = some l → languageOf host.env (name :: args) = .ofText l) ∧
    (i.lang = none → languageOf host.env (name :: args) = .ofSystem host.env) ∧
    (¬ AsksForHelp name →
      (∀ l, i.lang = some l → run host (name :: args) = execute host (.ofText l) i) ∧
      (i.lang = none → run host (name :: args) = execute host (.ofSystem host.env) i)) := by
  have hscan : requestedLanguage? host.env (name :: args) = i.lang := by
    rw [lang_of_parse h, requestedLanguage?, lastRequest?_cons]
    rcases hname with hname | hline
    · rw [requestAt_of_not_asks hname, Option.or_none]
    · obtain ⟨l, hl⟩ := Option.isSome_iff_exists.1 hline
      rw [hl]
      rfl
  have hsome (l : String) (hl : i.lang = some l) :
      languageOf host.env (name :: args) = .ofText l := by rw [languageOf, hscan, hl]
  have hnone (hl : i.lang = none) : languageOf host.env (name :: args) = .ofSystem host.env := by
    rw [languageOf, hscan, hl]
  refine ⟨hscan, hsome, hnone, fun hhelp => ?_⟩
  rw [run_of_parse h hhelp]
  exact ⟨fun l hl => by rw [hsome l hl], fun hl => by rw [hnone hl]⟩

/-- A host without files whose environment asks for English. -/
def englishHost : Host where
  env name := if name = languageVariable then some "en_GB.UTF-8" else none
  files _ := .missing
  forDevelopers := true

/-- The option on the level of the command counts, and the value of another option that looks like a
request does not. -/
theorem languageOf_parse_resolve :
    ∃ i, parse englishHost.env
        ["--lang", "en", "resolve", "--lang=zh_TW", "0x1", "-p=--lang=en", "--mac=--lang"] = .ok i ∧
      i.lang = some "zh_TW" ∧ run englishHost [programName,
        "--lang", "en", "resolve", "--lang=zh_TW", "0x1", "-p=--lang=en", "--mac=--lang"] =
          execute englishHost .zhCN i := by
  have h : parse englishHost.env
      ["--lang", "en", "resolve", "--lang=zh_TW", "0x1", "-p=--lang=en", "--mac=--lang"] =
      .ok { request := .resolve 1 false, config := none, lang := some "zh_TW", verbose := 0,
            quiet := false, nonInteractive := false,
            overrides := { path := some "--lang=en", bluetoothMac := some "--lang" } } := by
    rfl
  obtain ⟨-, -, -, hrun⟩ := @languageOf_parse englishHost programName _ _ h (.inl (by decide))
  refine ⟨_, h, rfl, ?_⟩
  rw [(hrun (by decide)).1 "zh_TW" rfl]
  rfl

/-- A host that has neither an environment nor files. -/
def bareHost : Host where
  env _ := none
  files _ := .missing
  forDevelopers := true

/-- A program that is called under a name that looks like a request takes the name for one, although
the line that it reads has none. -/
theorem not_forall_languageOf_parse :
    ¬ ∀ (host : Host) (name : String) (args : List String) (i : Invocation),
      parse host.env args = .ok i →
        (∀ l, i.lang = some l → languageOf host.env (name :: args) = .ofText l) ∧
        (i.lang = none → requestedLanguage? host.env (name :: args) = none ∧
          languageOf host.env (name :: args) = .ofSystem host.env) := by
  intro h
  obtain ⟨i, hparse, hlang⟩ : ∃ i, parse bareHost.env ["list"] = .ok i ∧ i.lang = none :=
    ⟨_, rfl, rfl⟩
  obtain ⟨-, hnone⟩ := h bareHost "--lang=zh" ["list"] i hparse
  exact absurd (hnone hlang).2 (by decide)

end PortRoster.CommandLine
