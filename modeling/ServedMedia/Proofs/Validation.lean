import ServedMedia.Proofs.Parsing
import ServedMedia.Proofs.Reporting

/-!
# What checked options promise

A text that begins with "file:///" always denotes a file URL.  So does the text of every
URL without a host, among them those of all paths.  Of the text of a URL with a host this
has to be known: `ReadsAgain`.

Options that pass the check therefore have a base that can be used, or none.  With a
base no file URL is left unresolved, and without one it is said that there is none:

    config.finalize directory = (finalized, .ok ()) →
      finalized.baseUrl.isSome = true → (finalized.replaceImports tree).2.diagnostics = []
                                                                  (diagnostics_of_finalize)
-/

namespace ServedMedia

namespace FileUrl

/-- If a text denotes a URL with a host, then the text of this URL denotes one too. -/
def ReadsAgain (text : List Char) : Prop :=
  ∀ url, parse? text = some url → url.host.isSome = true → (parse? url.render).isSome = true

/-! ## Reading again -/

theorem exists_render_of_host_none {url : FileUrl} (h : url.host = none) :
    ∃ rest, url.render = fileUrlStart ++ rest := by
  have hstart : fileUrlStart = "file://".toList ++ ['/'] := by decide
  unfold render
  rw [h, hstart]
  -- As a variable the text is not computed again.
  generalize "file://".toList = start
  exact ⟨joinSlash url.path ++ url.query.elim [] ('?' :: ·) ++ url.fragment.elim [] ('#' :: ·),
    by simp⟩

theorem host_of_ofPath? {path : List Char} {url : FileUrl} (h : ofPath? path = some url) :
    url.host = none := by
  rw [ofPath?] at h
  split at h
  · rw [← Option.some.inj h]
  · cases h

theorem isSome_parse?_render {text directory : List Char} {url : FileUrl}
    (h : ofUrlOrPath? text directory = some url) (hagain : ReadsAgain text) :
    (parse? url.render).isSome = true := by
  cases hhost : url.host with
  | none =>
    obtain ⟨rest, hrest⟩ := exists_render_of_host_none hhost
    rw [hrest, parse?_fileUrlStart]
    rfl
  | some host =>
    rw [ofUrlOrPath?] at h
    split at h
    · exact hagain url h (by rw [hhost]; rfl)
    · rw [host_of_ofPath? h] at hhost
      cases hhost

end FileUrl

/-! ## Checked options -/

namespace Config

/-- A check that passes leaves no base or the text of a file URL. -/
theorem baseUrl_of_finalize {config finalized : Config} {directory : String}
    (h : config.finalize directory = (finalized, .ok ())) :
    (dropEmpty config.baseUrl = none ∧ finalized.baseUrl = none) ∨
      ∃ base url, dropEmpty config.baseUrl = some base ∧
        FileUrl.ofUrlOrPath? base.toList directory.toList = some url ∧
        finalized.baseUrl = some (String.ofList url.render) := by
  unfold finalize at h
  simp only at h
  split at h
  · cases (Prod.mk.inj h).2
  · split at h
    · next hbase =>
      rw [← (Prod.mk.inj h).1]
      exact .inl ⟨hbase, rfl⟩
    · next base hbase =>
      split at h
      · cases (Prod.mk.inj h).2
      · next url hurl =>
        rw [← (Prod.mk.inj h).1]
        exact .inr ⟨base, url, hbase, hurl, rfl⟩

theorem dropEmpty_eq_none_iff (option : Option String) :
    dropEmpty option = none ↔ option = none ∨ option = some "" := by
  cases option <;> simp [dropEmpty]

theorem eq_of_dropEmpty {option : Option String} {text : String}
    (h : dropEmpty option = some text) : option = some text := by
  cases option with
  | none => cases h
  | some other => exact (Option.filter_eq_some_iff.1 h).1

end Config

/-! ## Complaints -/

namespace Resolve

theorem exists_missingBaseUrl_of_complaint? {specifier : String} {diagnostic : Diagnostic}
    (h : complaint? specifier none = some diagnostic) :
    ∃ url, diagnostic = .missingBaseUrl url := by
  unfold complaint? at h
  split at h
  · exact ⟨_, (Option.some.inj h).symm⟩
  · cases h

/-- What begins with "file:///" can be read, also when it is composed. -/
theorem isSome_fileUrlNames?_composed {specifier : String}
    (hfile : startsWith fileUrlStart specifier.toList = true) :
    (fileUrlNames? (String.ofList (Canonical.composed specifier.toList))).isSome = true := by
  obtain ⟨rest, hrest⟩ := (startsWith_iff _ _).1 hfile
  rw [fileUrlNames?, String.toList_ofList, hrest, composed_fileUrl, FileUrl.parse?_fileUrlStart]
  rfl

/-- Every file URL can be seen from a document whose URL can be read. -/
theorem complaint?_eq_none {document : String} (hbase : (fileUrlNames? document).isSome = true)
    (specifier : String) : complaint? specifier (some document) = none := by
  unfold complaint?
  split
  · next hfile =>
    have htarget := isSome_fileUrlNames?_composed hfile
    simp [Option.isNone_eq_false_iff.2 htarget, Option.isNone_eq_false_iff.2 hbase]
  · rfl

end Resolve

/-! ## Top theorems -/

namespace Config

theorem diagnostics_of_finalize {config finalized : Config} {directory : String}
    (h : config.finalize directory = (finalized, .ok ()))
    (hagain : ∀ base, config.baseUrl = some base → FileUrl.ReadsAgain base.toList) (tree : Json) :
    (∀ url specifier,
      .invalidFileUrl url specifier ∉ (finalized.replaceImports tree).2.diagnostics) ∧
    (finalized.baseUrl.isSome = true → (finalized.replaceImports tree).2.diagnostics = []) ∧
    (finalized.baseUrl = none ↔ config.baseUrl = none ∨ config.baseUrl = some "") := by
  rw [diagnostics_replaceImports, ← dropEmpty_eq_none_iff]
  rcases baseUrl_of_finalize h with ⟨hnone, hfinal⟩ | ⟨base, url, hbase, hurl, hfinal⟩
  · rw [hfinal, hnone]
    refine ⟨fun url specifier hmem => ?_, by simp, by simp⟩
    obtain ⟨replacement, -, hcomplaint⟩ := List.mem_filterMap.1 hmem
    obtain ⟨missing, hmissing⟩ := Resolve.exists_missingBaseUrl_of_complaint? hcomplaint
    cases hmissing
  · have husable : (Resolve.fileUrlNames? (String.ofList url.render)).isSome = true := by
      rw [Resolve.fileUrlNames?, String.toList_ofList, Option.isSome_map]
      exact FileUrl.isSome_parse?_render hurl (hagain base (eq_of_dropEmpty hbase))
    have hquiet : (fun replacement : Replacement =>
        Resolve.complaint? replacement.specifier (some (String.ofList url.render))) =
          fun _ => none :=
      funext fun replacement => Resolve.complaint?_eq_none husable replacement.specifier
    rw [hfinal, hbase, hquiet]
    simp

/-- `import photo from "file:///a.png"` -/
def sharedPage : Json :=
  .object [("body", .array [.object [("type", .string "ImportDeclaration"),
    ("specifiers", .array [.object [("local",
      .object [("type", .string "Identifier"), ("name", .string "photo")])]]),
    ("source", .object [("type", .string "Literal"), ("value", .string "file:///a.png")])]])]

/-- The URL of a document on another host. -/
def hubUrl : FileUrl :=
  ⟨some "hub".toList, ["posts".toList, "a%20b.mdx".toList], none, none⟩

theorem readsAgain_hubUrl : FileUrl.ReadsAgain "FILE://Hub/posts/a b.mdx".toList := by
  have hparse : FileUrl.parse? "FILE://Hub/posts/a b.mdx".toList = some hubUrl := by
    decide +kernel
  intro url hurl _
  obtain rfl : hubUrl = url := Option.some.inj (hparse.symm.trans hurl)
  decide +kernel

theorem diagnostics_of_finalize_hub :
    finalize ⟨some "", some "FILE://Hub/posts/a b.mdx"⟩ "/site" =
      (⟨none, some "file://hub/posts/a%20b.mdx"⟩, .ok ()) ∧
    FileUrl.ReadsAgain "FILE://Hub/posts/a b.mdx".toList ∧
    (replaceImports ⟨none, some "file://hub/posts/a%20b.mdx"⟩ sharedPage).2.diagnostics = [] := by
  have hfinalize : finalize ⟨some "", some "FILE://Hub/posts/a b.mdx"⟩ "/site" =
      (⟨none, some "file://hub/posts/a%20b.mdx"⟩, .ok ()) := by
    decide +kernel
  have hagain : ∀ base, some "FILE://Hub/posts/a b.mdx" = some base →
      FileUrl.ReadsAgain base.toList := by
    rintro _ ⟨⟩
    exact readsAgain_hubUrl
  exact ⟨hfinalize, readsAgain_hubUrl,
    (diagnostics_of_finalize hfinalize hagain sharedPage).2.1 rfl⟩

end Config

end ServedMedia
