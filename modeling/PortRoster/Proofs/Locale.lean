import PortRoster.Locale
import PortRoster.Proofs.Text.Run
import PortRoster.Proofs.Text.SmallLetter

/-! # The language that a text names

A text such as `zh_Hant_TW.UTF-8` is cut at the encoding, its separators are made one, and it is
looked up among the tags before its primary subtag is. All this comes to one thing: what stands
before the first separator, in small letters, is `zh` or is not.

* `primary_tagIn`: the primary subtag is what stands before the first separator.
* `ofPrimary_of_ofTag?`: the tag of a language and its primary subtag name the same language.
* `ofText_primary`: so the rest of the text, the region or the encoding, does not count. -/

namespace PortRoster.Locale

/-- The characters that end the primary subtag. -/
def isSeparator (c : Char) : Bool := c = '.' || c = '_' || c = '-'

theorem ofTag?_eq_some_iff {s : String} {l : Locale} : ofTag? s = some l ↔ l.tag = s := by
  constructor
  · intro h
    simpa using List.find?_some h
  · rintro rfl
    cases l <;> rfl

/-- **The primary subtag is what stands before the first separator.** -/
theorem primary_tagIn (cs : List Char) :
    primary (tagIn cs) = (cs.takeWhile (!isSeparator ·)).map Char.toLower := by
  unfold primary tagIn
  congr 1
  induction cs with
  | nil => rfl
  | cons c cs ih =>
    by_cases hdot : c = '.'
    · simp [isSeparator, hdot]
    · by_cases hline : c = '_'
      · simp [isSeparator, hline]
      · by_cases hdash : c = '-'
        · simp [isSeparator, hdash]
        · simpa [isSeparator, hdot, hline, hdash] using ih

/-- **The tag of a language and its primary subtag name the same language.** -/
theorem ofPrimary_of_ofTag? {tag : List Char} {l : Locale}
    (h : ofTag? (String.ofList tag) = some l) : ofPrimary (primary tag) = l := by
  have htag : tag = l.tag.toList := by
    rw [ofTag?_eq_some_iff.1 h, String.toList_ofList]
  rw [htag]
  cases l <;> decide

theorem ofText_eq_ofPrimary (s : String) : ofText s = ofPrimary (primary (tagIn s.toList)) := by
  unfold ofText
  simp only
  split
  · next l h => exact (ofPrimary_of_ofTag? h).symm
  · rfl

theorem ofText_append {p r : String} (hp : ∀ c ∈ p.toList, ¬ isSeparator c)
    (hr : ∀ c, r.toList.head? = some c → isSeparator c) :
    ofText (p ++ r) = ofPrimary (p.toList.map Char.toLower) := by
  have hrun : ∀ c ∈ p.toList, !isSeparator c := fun c hc => by simpa using hp c hc
  have hstops : Text.Stops (!isSeparator ·) r.toList := fun c hc => by simpa using hr c hc
  rw [ofText_eq_ofPrimary, primary_tagIn, String.toList_append, Text.takeWhile_run hrun hstops]

theorem smallLetters_eq_zh_iff {p : String} :
    Text.smallLetters p = "zh" ↔ p.toList.map Char.toLower = ['z', 'h'] := by
  refine Text.smallLetters_eq_iff fun d hd => ?_
  have hd : d = 'z' ∨ d = 'h' := by simpa using hd
  rcases hd with rfl | rfl <;> exact ⟨by decide, by decide, by decide⟩

/-- **Only the primary subtag counts.** Whatever region, script, variant or encoding follows it, the
text names the Chinese language if the subtag is `zh` in small letters, and else the English one. A
text that is itself the tag of a language would be found by its primary subtag too, and the tag of
the language that is found names that language. -/
theorem ofText_primary :
    (∀ p r : String, (∀ c ∈ p.toList, ¬ isSeparator c) →
      (∀ c, r.toList.head? = some c → isSeparator c) →
      ofText (p ++ r) = ofText p ∧
      (ofText p).tag = if Text.smallLetters p = "zh" then "zh-CN" else "en") ∧
    (∀ (tag : List Char) (l : Locale),
      ofTag? (String.ofList tag) = some l → l = ofPrimary (primary tag)) ∧
    ∀ s : String, (ofText s).tag ∈ all.map tag ∧ ofText (ofText s).tag = ofText s := by
  refine ⟨fun p r hp hr => ?_, fun tag l h => (ofPrimary_of_ofTag? h).symm, fun s => ⟨?_, ?_⟩⟩
  · have halone : ofText p = ofPrimary (p.toList.map Char.toLower) := by
      have h := ofText_append (r := "") hp fun c hc => by simp at hc
      rwa [String.append_empty] at h
    refine ⟨by rw [ofText_append hp hr, halone], ?_⟩
    rw [halone, ofPrimary]
    simp only [smallLetters_eq_zh_iff]
    split <;> rfl
  · cases ofText s <;> decide
  · exact ofText_tag _

/-- The script and the encoding do not count, nor does the case of the letters. -/
theorem ofText_primary_traditional :
    (∀ c ∈ "zH".toList, ¬ isSeparator c) ∧
      (∀ c, "_Hant-TW.Big5".toList.head? = some c → isSeparator c) ∧
      Text.smallLetters "zH" = "zh" ∧ (ofText ("zH" ++ "_Hant-TW.Big5")).tag = "zh-CN" := by
  obtain ⟨hprimary, -⟩ := ofText_primary
  have hp : ∀ c ∈ "zH".toList, ¬ isSeparator c := by simp [isSeparator]
  have hr : ∀ c, "_Hant-TW.Big5".toList.head? = some c → isSeparator c := by
    intro c hc
    cases hc
    decide
  have hsmall : Text.smallLetters "zH" = "zh" := smallLetters_eq_zh_iff.2 (by decide)
  obtain ⟨happend, htag⟩ := hprimary "zH" "_Hant-TW.Big5" hp hr
  exact ⟨hp, hr, hsmall, by rw [happend, htag, if_pos hsmall]⟩

end PortRoster.Locale
