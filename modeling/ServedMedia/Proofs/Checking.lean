import ServedMedia.Proofs.Converting
import ServedMedia.Proofs.Validation

/-!
# When options are refused

An option is taken for a URL if it begins with a word of at least two scheme characters
and a colon.  A scheme begins with a letter, but the check does not ask for one:

    looksLikeUrl text = true ↔ BeginsWithScheme text ∨ BeginsLikeScheme text   (looksLikeUrl_iff)

A mount prefix that is taken for a URL is refused, and so is such a base unless it is the
URL of a file.  Nothing else is refused:

    (∃ error, (config.finalize directory).2 = .error error) ↔
      (∃ text, config.mountPrefix = some text ∧ …) ∨ ∃ base, config.baseUrl = some base ∧ …
                                                                          (finalize_error_iff)

Options are set and checked in any order, and after a check that fails they can be
checked again.  What such a check leaves is told by `LeftBy`, along any run of calls:

    answer ∈ trace config calls → answer.outcome = .error error →
      LeftBy answer.before answer.after error                              (leftBy_of_trace)
-/

namespace ServedMedia

namespace FileUrl

/-- A text that begins with a word of at least two scheme characters and a colon, where the
first character is of a certain kind. -/
def BeginsWithWord (kind : Char → Prop) (text : List Char) : Prop :=
  ∃ first word rest, text = first :: word ++ ':' :: rest ∧ kind first ∧
    isSchemeChar first = true ∧ word ≠ [] ∧ ∀ c ∈ word, isSchemeChar c = true

/-- A text that begins with the scheme of a URL, which has at least two characters: a letter,
then letters, digits, "+", "-" and ".". -/
def BeginsWithScheme (text : List Char) : Prop := BeginsWithWord (·.isAlpha = true) text

/-- A text that begins as with a scheme, but for its first character, which is no letter. -/
def BeginsLikeScheme (text : List Char) : Prop := BeginsWithWord (·.isAlpha = false) text

/-! ## Schemes -/

theorem BeginsLikeScheme.not_beginsWithScheme {text : List Char} (h : BeginsLikeScheme text) :
    ¬ BeginsWithScheme text := by
  obtain ⟨first, word, rest, htext, halpha, -⟩ := h
  rintro ⟨letter, others, behind, hother, hletter, -⟩
  obtain ⟨rfl, -⟩ := List.cons.inj (htext.symm.trans hother)
  rw [halpha] at hletter
  cases hletter

theorem beginsWithWord_iff (text : List Char) :
    BeginsWithWord (fun _ => True) text ↔ BeginsWithScheme text ∨ BeginsLikeScheme text := by
  constructor
  · rintro ⟨first, word, rest, htext, -, hchars⟩
    cases halpha : first.isAlpha with
    | true => exact .inl ⟨first, word, rest, htext, halpha, hchars⟩
    | false => exact .inr ⟨first, word, rest, htext, halpha, hchars⟩
  · rintro (⟨first, word, rest, htext, -, hchars⟩ | ⟨first, word, rest, htext, -, hchars⟩)
    · exact ⟨first, word, rest, htext, trivial, hchars⟩
    · exact ⟨first, word, rest, htext, trivial, hchars⟩

/-- What a scheme may hold is neither a colon nor a blank. -/
theorem isSchemeChar_eq_false {c : Char} (h : c = ':' ∨ isBlank c = true) :
    isSchemeChar c = false := by
  have hc : c.toNat < 0x80 := by
    rcases h with rfl | hblank
    · decide
    · have hle : c.toNat ≤ 0x20 := by simpa [isBlank] using hblank
      omega
  exact forall_ascii (P := fun c => c = ':' ∨ isBlank c = true → isSchemeChar c = false)
    (by decide +kernel) c hc h

theorem takeWhile_append_colon {word : List Char} (h : ':' ∉ word) (rest : List Char) :
    (word ++ ':' :: rest).takeWhile (· != ':') = word := by
  have hall : ∀ c ∈ word, (c != ':') = true := by
    intro c hmem
    have hc : c ≠ ':' := by
      rintro rfl
      exact h hmem
    simpa using hc
  rw [List.takeWhile_append_of_pos hall, List.takeWhile_cons_of_neg (by decide), List.append_nil]

/-- The word is all that stands in front of the first colon. -/
theorem looksLikeUrl_iff_beginsWithWord (text : List Char) :
    looksLikeUrl text = true ↔ BeginsWithWord (fun _ => True) text := by
  unfold looksLikeUrl
  simp only [Bool.and_eq_true, decide_eq_true_eq, List.all_eq_true, List.contains_iff_mem]
  constructor
  · rintro ⟨⟨hcolon, hlength⟩, hchars⟩
    obtain ⟨scheme, rest, rfl, hfirst⟩ := List.eq_append_cons_of_mem hcolon
    rw [takeWhile_append_colon hfirst] at hlength hchars
    cases scheme with
    | nil => simp at hlength
    | cons first word =>
      refine ⟨first, word, rest, rfl, trivial, hchars first List.mem_cons_self, ?_,
        fun c hmem => hchars c (List.mem_cons_of_mem _ hmem)⟩
      rintro rfl
      simp at hlength
  · rintro ⟨first, word, rest, rfl, -, hfirst, hword, hchars⟩
    have hall : ∀ c ∈ first :: word, isSchemeChar c = true :=
      List.forall_mem_cons.2 ⟨hfirst, hchars⟩
    have hcolon : ':' ∉ first :: word := fun hmem =>
      absurd (hall ':' hmem) (by rw [isSchemeChar_eq_false (.inl rfl)]; simp)
    rw [takeWhile_append_colon hcolon]
    have hpos := List.length_pos_of_ne_nil hword
    exact ⟨⟨by simp, by rw [List.length_cons]; omega⟩, hall⟩

theorem looksLikeUrl_iff (text : List Char) :
    looksLikeUrl text = true ↔ BeginsWithScheme text ∨ BeginsLikeScheme text := by
  rw [looksLikeUrl_iff_beginsWithWord, beginsWithWord_iff]

/-- Blanks are cut off behind the first character only, if that is none. -/
theorem exists_trim_cons {first : Char} (h : isBlank first = false) (rest : List Char) :
    ∃ kept, trim (first :: rest) = first :: kept := by
  unfold trim
  rw [List.dropWhile_cons_of_neg (by simp [h]), List.reverse_cons, List.dropWhile_append]
  split
  · exact ⟨[], by rw [List.dropWhile_cons_of_neg (by simp [h])]; rfl⟩
  · exact ⟨_, by rw [List.reverse_append]; rfl⟩

/-- A scheme begins with a letter. -/
theorem scheme?_cons {first : Char} (h : first.isAlpha = false) (rest : List Char) :
    scheme? (first :: rest) = none := by
  unfold scheme?
  simp only
  split
  · next letter _ _ htext _ =>
    obtain ⟨rfl, -⟩ := List.cons.inj htext
    rw [if_neg (by simp [h])]
  · rfl

theorem parse?_of_beginsLikeScheme {text : List Char} (h : BeginsLikeScheme text) :
    parse? text = none := by
  obtain ⟨first, word, rest, rfl, halpha, hfirst, -⟩ := h
  have hblank : isBlank first = false := by
    cases hcase : isBlank first with
    | false => rfl
    | true => rw [isSchemeChar_eq_false (.inr hcase)] at hfirst; cases hfirst
  obtain ⟨kept, hkept⟩ := exists_trim_cons hblank (word ++ ':' :: rest)
  unfold parse?
  rw [List.cons_append, hkept, scheme?_cons halpha]

/-- Every text that is not taken for a URL is a path, and every path seen from an absolute
directory has a URL. -/
theorem ofUrlOrPath?_eq_none_iff {directory : List Char}
    (h : Path.isAbsolute directory = true) (text : List Char) :
    ofUrlOrPath? text directory = none ↔
      (BeginsWithScheme text ∧ parse? text = none) ∨ BeginsLikeScheme text := by
  unfold ofUrlOrPath?
  split
  · next hurl =>
    rcases (looksLikeUrl_iff text).1 hurl with hscheme | hlike
    · constructor
      · exact fun hnone => .inl ⟨hscheme, hnone⟩
      · rintro (⟨-, hnone⟩ | hlike)
        · exact hnone
        · exact parse?_of_beginsLikeScheme hlike
    · exact ⟨fun _ => .inr hlike, fun _ => parse?_of_beginsLikeScheme hlike⟩
  · next hurl =>
    rw [ofPath?, if_pos (isAbsolute_join h text)]
    constructor
    · rintro ⟨⟩
    · intro hword
      exact absurd ((looksLikeUrl_iff text).2 (hword.imp_left And.left)) hurl

end FileUrl

/-! ## One check -/

namespace Config

open FileUrl

/-- What a check comes to: the options afterwards, and its outcome. -/
inductive Checked (config : Config) (directory : String) :
    Config × Except ConfigError Unit → Prop where
  | refusedMount {text : String} :
      config.mountPrefix = some text → looksLikeUrl text.toList = true →
      Checked config directory (config, .error (.mountPrefixIsUrl text))
  | refusedBase {base : String} :
      (∀ text, config.mountPrefix = some text → looksLikeUrl text.toList = false) →
      config.baseUrl = some base → ofUrlOrPath? base.toList directory.toList = none →
      Checked config directory
        (⟨dropEmpty config.mountPrefix, none⟩, .error (.baseIsNoFileUrl base))
  | withoutBase :
      (∀ text, config.mountPrefix = some text → looksLikeUrl text.toList = false) →
      dropEmpty config.baseUrl = none →
      Checked config directory (⟨dropEmpty config.mountPrefix, none⟩, .ok ())
  | withBase {base : String} {url : FileUrl} :
      (∀ text, config.mountPrefix = some text → looksLikeUrl text.toList = false) →
      config.baseUrl = some base → ofUrlOrPath? base.toList directory.toList = some url →
      Checked config directory
        (⟨dropEmpty config.mountPrefix, some (String.ofList url.render)⟩, .ok ())

theorem dropEmpty_eq (option : Option String) :
    dropEmpty option = if option = some "" then none else option := by
  cases option with
  | none => rfl
  | some text => by_cases h : text = "" <;> simp [dropEmpty, h]

theorem not_exists_of_looksLikeUrl {option : Option String}
    (h : ∀ text, option = some text → looksLikeUrl text.toList = false) :
    ¬ ∃ text, option = some text ∧
      (BeginsWithScheme text.toList ∨ BeginsLikeScheme text.toList) := by
  rintro ⟨text, htext, hword⟩
  rw [← looksLikeUrl_iff, h text htext] at hword
  cases hword

theorem checked_finalize (config : Config) (directory : String) :
    Checked config directory (config.finalize directory) := by
  unfold finalize
  simp only
  split
  · next text hrefused =>
    obtain ⟨hmount, hurl⟩ := Option.filter_eq_some_iff.1 hrefused
    have hgiven := eq_of_dropEmpty hmount
    have hsame : (⟨dropEmpty config.mountPrefix, config.baseUrl⟩ : Config) = config := by
      rw [hmount, ← hgiven]
    rw [hsame]
    exact .refusedMount hgiven hurl
  · next hfine =>
    have hmount : ∀ text, config.mountPrefix = some text →
        looksLikeUrl text.toList = false := by
      intro text htext
      by_cases hempty : text = ""
      · rw [hempty]
        rfl
      · have hdrop : dropEmpty config.mountPrefix = some text := by
          rw [dropEmpty_eq, htext]
          simp [hempty]
        simpa [hdrop] using hfine
    split
    · next hbase => exact .withoutBase hmount hbase
    · next base hbase =>
      split
      · next hnone => exact .refusedBase hmount (eq_of_dropEmpty hbase) hnone
      · next url hurl => exact .withBase hmount (eq_of_dropEmpty hbase) hurl

/-! ## Runs of calls -/

/-- What can be done with options. -/
inductive Call where
  | override (mountPrefix baseUrl : Option String)
  | finalize (directory : String)

def Call.run (config : Config) : Call → Config × Except ConfigError Unit
  | .override mountPrefix baseUrl => (config.override mountPrefix baseUrl, .ok ())
  | .finalize directory => config.finalize directory

/-- A call with the options before and after it, and its outcome. -/
structure Answer where
  before : Config
  call : Call
  after : Config
  outcome : Except ConfigError Unit

/-- Calls one after the other, each on the options that the last one left. -/
def trace : Config → List Call → List Answer
  | _, [] => []
  | config, call :: calls =>
    ⟨config, call, (call.run config).1, (call.run config).2⟩ :: trace (call.run config).1 calls

/-- What is left by a check that fails.  An empty mount prefix has become none.  The
options are what they were if the mount prefix is refused, and if the base is, then no
other base has taken its place. -/
inductive LeftBy (before after : Config) : ConfigError → Prop where
  | mountPrefix {text : String} :
      before.mountPrefix = some text → after = before → LeftBy before after (.mountPrefixIsUrl text)
  | baseUrl {base : String} :
      before.baseUrl = some base →
      after.mountPrefix = (if before.mountPrefix = some "" then none else before.mountPrefix) →
      after.baseUrl = some base ∨ after.baseUrl = none →
      LeftBy before after (.baseIsNoFileUrl base)

theorem Checked.leftBy {config after : Config} {directory : String} {error : ConfigError}
    (h : Checked config directory (after, .error error)) : LeftBy config after error := by
  cases h with
  | refusedMount hmount hurl => exact .mountPrefix hmount rfl
  | refusedBase hmount hbase hnone => exact .baseUrl hbase (dropEmpty_eq _) (.inr rfl)

theorem Call.leftBy_of_run {config : Config} {call : Call} {error : ConfigError}
    (h : (call.run config).2 = .error error) : LeftBy config (call.run config).1 error := by
  cases call with
  | override mountPrefix baseUrl => cases h
  | finalize directory =>
    have hchecked := checked_finalize config directory
    have hpair : config.finalize directory = ((config.finalize directory).1, .error error) :=
      Prod.ext rfl h
    rw [hpair] at hchecked
    exact hchecked.leftBy

/-! ## Top theorems -/

theorem finalize_error_iff (config : Config) {directory : String}
    (h : Path.isAbsolute directory.toList = true) :
    ((∃ error, (config.finalize directory).2 = .error error) ↔
      (∃ text, config.mountPrefix = some text ∧
        (BeginsWithScheme text.toList ∨ BeginsLikeScheme text.toList)) ∨
      ∃ base, config.baseUrl = some base ∧
        ((BeginsWithScheme base.toList ∧ parse? base.toList = none) ∨
          BeginsLikeScheme base.toList)) ∧
    (config.finalize directory).1.mountPrefix =
      if config.mountPrefix = some "" then none else config.mountPrefix := by
  have hchecked := checked_finalize config directory
  generalize config.finalize directory = result at hchecked
  cases hchecked with
  | refusedMount hmount hurl =>
    refine ⟨⟨fun _ => .inl ⟨_, hmount, (looksLikeUrl_iff _).1 hurl⟩, fun _ => ⟨_, rfl⟩⟩, ?_⟩
    rw [if_neg]
    intro hempty
    obtain rfl := Option.some.inj (hmount.symm.trans hempty)
    cases hurl
  | refusedBase hmount hbase hnone =>
    exact ⟨⟨fun _ => .inr ⟨_, hbase, (ofUrlOrPath?_eq_none_iff h _).1 hnone⟩, fun _ => ⟨_, rfl⟩⟩,
      dropEmpty_eq _⟩
  | withoutBase hmount hbase =>
    refine ⟨⟨fun ⟨_, herror⟩ => (by cases herror), ?_⟩, dropEmpty_eq _⟩
    rintro (hrefused | ⟨base, hsome, hword⟩)
    · exact absurd hrefused (not_exists_of_looksLikeUrl hmount)
    · rcases (dropEmpty_eq_none_iff _).1 hbase with hnone | hempty
      · rw [hnone] at hsome
        cases hsome
      · obtain rfl := Option.some.inj (hempty.symm.trans hsome)
        have hurl := (looksLikeUrl_iff _).2 (hword.imp_left And.left)
        cases hurl
  | withBase hmount hbase hurl =>
    refine ⟨⟨fun ⟨_, herror⟩ => (by cases herror), ?_⟩, dropEmpty_eq _⟩
    rintro (hrefused | ⟨base, hsome, hword⟩)
    · exact absurd hrefused (not_exists_of_looksLikeUrl hmount)
    · obtain rfl := Option.some.inj (hbase.symm.trans hsome)
      rw [(ofUrlOrPath?_eq_none_iff h _).2 hword] at hurl
      cases hurl

/-- A colon may stand in a mount prefix and in the name of a file. -/
theorem finalize_error_iff_colons :
    Path.isAbsolute "/site".toList = true ∧
    ¬ ∃ error, (finalize ⟨some "photos/2024:", some "posts/a:b.mdx"⟩ "/site").2 =
      .error error := by
  refine ⟨by decide, fun herror => ?_⟩
  rcases (finalize_error_iff _ (by decide)).1.1 herror with ⟨text, htext, hword⟩ |
    ⟨base, hbase, hword⟩
  · obtain rfl := Option.some.inj htext
    exact absurd ((looksLikeUrl_iff _).2 hword) (by decide)
  · obtain rfl := Option.some.inj hbase
    exact absurd ((looksLikeUrl_iff _).2 (hword.imp_left And.left)) (by decide)

/-- A year in front of a colon is no scheme, but it is taken for one in both options. -/
theorem not_beginsWithScheme_year :
    (finalize ⟨some "2024:photos", none⟩ "/site").2 = .error (.mountPrefixIsUrl "2024:photos") ∧
    (finalize ⟨none, some "2024:notes/a.mdx"⟩ "/site").2 =
      .error (.baseIsNoFileUrl "2024:notes/a.mdx") ∧
    ¬ BeginsWithScheme "2024:photos".toList ∧ ¬ BeginsWithScheme "2024:notes/a.mdx".toList := by
  -- Asked about all characters of the word, `decide` would go through every character there is.
  have hmount : BeginsLikeScheme "2024:photos".toList :=
    ⟨'2', "024".toList, "photos".toList, by decide, by decide, by decide, by decide,
      List.all_eq_true.1 (by decide)⟩
  have hbase : BeginsLikeScheme "2024:notes/a.mdx".toList :=
    ⟨'2', "024".toList, "notes/a.mdx".toList, by decide, by decide, by decide, by decide,
      List.all_eq_true.1 (by decide)⟩
  exact ⟨by decide +kernel, by decide +kernel, hmount.not_beginsWithScheme,
    hbase.not_beginsWithScheme⟩

theorem leftBy_of_trace (config : Config) (calls : List Call) :
    ∀ answer ∈ trace config calls, ∀ error, answer.outcome = .error error →
      LeftBy answer.before answer.after error := by
  induction calls generalizing config with
  | nil => simp [trace]
  | cons call calls ih =>
    intro answer hmem error herror
    rcases List.mem_cons.1 hmem with rfl | hmem
    · exact Call.leftBy_of_run herror
    · exact ih _ answer hmem error herror

/-- A base that is no file, given with an empty mount prefix. -/
theorem finalize_remote : finalize ⟨some "", some "https://example.com/post"⟩ "/site" =
    (⟨none, none⟩, .error (.baseIsNoFileUrl "https://example.com/post")) := by
  decide +kernel

/-- Both options are set from nothing and then checked. -/
def remoteCalls : List Call :=
  [.override (some "") (some "https://example.com/post"), .finalize "/site"]

theorem refused_mem_trace :
    (⟨⟨some "", some "https://example.com/post"⟩, .finalize "/site", ⟨none, none⟩,
      .error (.baseIsNoFileUrl "https://example.com/post")⟩ : Answer) ∈ trace .empty remoteCalls := by
  simp [trace, remoteCalls, Call.run, override, finalize_remote]

theorem leftBy_of_trace_remote :
    ∃ answer ∈ trace .empty remoteCalls,
      answer.outcome = .error (.baseIsNoFileUrl "https://example.com/post") ∧
      LeftBy answer.before answer.after (.baseIsNoFileUrl "https://example.com/post") :=
  ⟨_, refused_mem_trace, rfl, leftBy_of_trace .empty remoteCalls _ refused_mem_trace _ rfl⟩

theorem after_ne_before_remote :
    ¬ ∀ answer ∈ trace .empty remoteCalls, ∀ error, answer.outcome = .error error →
      answer.after = answer.before := by
  intro h
  exact absurd (h _ refused_mem_trace _ rfl) (by decide)

end Config

end ServedMedia
