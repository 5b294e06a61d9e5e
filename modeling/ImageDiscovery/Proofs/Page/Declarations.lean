import ImageDiscovery.Page.Declarations
import ImageDiscovery.Proofs.Html.Reader
import ImageDiscovery.Proofs.Page.Escape
import ImageDiscovery.Proofs.Text.Trim
import ImageDiscovery.Proofs.Text.Utf8

/-!
# Declarations — pages that are read as they were written

A page is written for a list of declarations, each as a line of its own with its values in quotes.
Reading the page, as text or as bytes, finds one meta element for each line and gives the declarations
back in their order, whatever characters they are made of.
-/

namespace ImageDiscovery

open Html

namespace Page

/-- What a page can say of a declaration. -/
structure Entry.IsWritable (e : Entry) : Prop where
  ours : Declaration.namespaceMark.isPrefixOf e.name = true
  scope_ne_nil : e.scope ≠ []
  scope_noSpace : .char ' ' ∉ e.scope
  scope_first : ∀ p ∈ e.scope.head?, p.isBlank = false
  template_ne_nil : e.template ≠ []
  template_first : ∀ p ∈ e.template.head?, p.isBlank = false
  template_last : ∀ p ∈ e.template.getLast?, p.isBlank = false
  /-- No lone surrogate, and none of the characters that a reader of HTML replaces. -/
  legible : ∀ p ∈ e.name ++ e.scope ++ e.template,
    p.isChar = true ∧ p ≠ .char '\x00' ∧ p ≠ .char '\r'

def Entry.declaration (e : Entry) : Declaration := ⟨e.name, e.scope, e.template⟩

variable {e : Entry}

/-- A name and a content that is joined of two parts are taken apart again. -/
theorem ofMeta?_content (h : e.IsWritable) :
    Declaration.ofMeta? e.name (e.scope ++ .char ' ' :: e.template) = some e.declaration := by
  have hcontent : Text.trim (e.scope ++ .char ' ' :: e.template) = e.scope ++ .char ' ' :: e.template := by
    apply Text.trim_eq_self
    · obtain ⟨p, rest, hscope⟩ := List.exists_cons_of_ne_nil h.scope_ne_nil
      have hfirst := h.scope_first
      rw [hscope] at hfirst ⊢
      exact hfirst
    · have hlast := h.template_last
      rw [List.getLast?_eq_some_getLast h.template_ne_nil] at hlast
      rw [List.getLast?_append, List.getLast?_cons_of_ne_nil h.template_ne_nil,
        List.getLast?_eq_some_getLast h.template_ne_nil, Option.some_or]
      exact hlast
  have htemplate : e.template.trim = e.template := Text.trim_eq_self h.template_first h.template_last
  have hscope : e.scope.isEmpty = false := List.isEmpty_eq_false_iff.mpr h.scope_ne_nil
  have hnonempty : e.template.isEmpty = false := List.isEmpty_eq_false_iff.mpr h.template_ne_nil
  unfold Declaration.ofMeta?
  rw [hcontent, Text.cut_append h.scope_noSpace]
  show (if _ && !e.scope.isEmpty && !e.template.trim.isEmpty then
    some (⟨e.name, e.scope, e.template.trim⟩ : Declaration) else none) = _
  rw [htemplate, h.ours, hscope, hnonempty]
  rfl

/-! ## One line -/

theorem declaration?_metaTag {name content : List Char} {ns cs : List Char}
    (hname : StandsFor name ns) (hcontent : StandsFor content cs) :
    declaration? (metaTag name content) =
      Declaration.ofMeta? (Text.ofChars ns) (Text.ofChars cs) := by
  have hfirst : attributeText (metaTag name content) "name" = Text.ofChars ns := by
    rw [← hname.decodeReferences_eq]
    rfl
  have hsecond : attributeText (metaTag name content) "content" = Text.ofChars cs := by
    rw [← hcontent.decodeReferences_eq]
    rfl
  rw [declaration?, hfirst, hsecond]

/-- The reader takes the characters as they are. -/
def IsClean (cs : List Char) : Prop := ∀ c ∈ cs, c ≠ '\x00' ∧ c ≠ '\r'

instance (cs : List Char) : Decidable (IsClean cs) :=
  List.decidableBAll (fun c => c ≠ '\x00' ∧ c ≠ '\r') cs

theorem IsClean.append {cs ds : List Char} (hcs : IsClean cs) (hds : IsClean ds) :
    IsClean (cs ++ ds) :=
  List.forall_mem_append.mpr ⟨hcs, hds⟩

theorem IsClean.of_standsFor {written cs : List Char} (hcs : IsClean cs) (h : StandsFor written cs) :
    IsClean written :=
  fun c hc => (h.kept c hc).elim (hcs c) id

theorem exists_clean {t : Text}
    (h : ∀ p ∈ t, p.isChar = true ∧ p ≠ .char '\x00' ∧ p ≠ .char '\r') :
    ∃ cs, t = Text.ofChars cs ∧ IsClean cs := by
  obtain ⟨cs, rfl⟩ := Text.exists_ofChars_of_encodable fun p hp => (h p hp).1
  refine ⟨cs, rfl, fun c hc => ?_⟩
  have hpoint := (h (.char c) (List.mem_map_of_mem hc)).2
  exact ⟨fun e => hpoint.1 (by rw [e]), fun e => hpoint.2 (by rw [e])⟩

/-- The line of a declaration, and the tag that it is read as. -/
theorem exists_line (h : e.IsWritable) :
    ∃ written tag, line e = Text.ofChars written ∧ IsClean written ∧
      declaration? tag = some e.declaration ∧
      ∀ found, (Reader.betweenTags found).run written = Reader.betweenTags (tag :: found) := by
  have hlegible := h.legible
  rw [List.forall_mem_append, List.forall_mem_append] at hlegible
  obtain ⟨name, hname, hnameClean⟩ := exists_clean hlegible.1.1
  obtain ⟨scope, hscope, hscopeClean⟩ := exists_clean hlegible.1.2
  obtain ⟨template, htemplate, htemplateClean⟩ := exists_clean hlegible.2
  obtain ⟨names, hnames, hnameStands⟩ := exists_standsFor_escape name
  obtain ⟨scopes, hscopes, hscopeStands⟩ := exists_standsFor_escape scope
  obtain ⟨templates, htemplates, htemplateStands⟩ := exists_standsFor_escape template
  have hspace : StandsFor " ".toList " ".toList := standsFor_self (by decide) (by decide)
  have hcontentStands := hscopeStands.append (hspace.append htemplateStands)
  refine ⟨"    <meta name=\"".toList ++ names ++ "\" content=\"".toList ++
      (scopes ++ (" ".toList ++ templates)) ++ "\">".toList,
    metaTag names (scopes ++ (" ".toList ++ templates)), ?_, ?_, ?_, ?_⟩
  · rw [line, hname, hscope, htemplate, hnames, hscopes, htemplates]
    simp only [Text.ofChars_append, List.append_assoc]
    rfl
  · have hcontentClean : IsClean (scopes ++ (" ".toList ++ templates)) :=
      (hscopeClean.of_standsFor hscopeStands).append
        (IsClean.append (by decide) (htemplateClean.of_standsFor htemplateStands))
    have hopen : IsClean "    <meta name=\"".toList := by decide
    have hbetween : IsClean "\" content=\"".toList := by decide
    have hclose : IsClean "\">".toList := by decide
    exact (((hopen.append (hnameClean.of_standsFor hnameStands)).append hbetween).append
      hcontentClean).append hclose
  · rw [declaration?_metaTag hnameStands hcontentStands, Text.ofChars_append, Text.ofChars_append,
      ← hname, ← hscope, ← htemplate]
    exact ofMeta?_content h
  · intro found
    exact Reader.run_element found hnameStands.unquoted hcontentStands.unquoted

/-! ## Pages -/

/-- The lines of declarations, and the tags that they are read as. -/
theorem exists_lines {entries : List Entry} (h : ∀ e ∈ entries, e.IsWritable) :
    ∃ (written : List Char) (tags : List Tag),
      Text.join "\n" (entries.map line) = Text.ofChars written ∧ IsClean written ∧
      tags.filterMap declaration? = entries.map Entry.declaration ∧
      ∀ found, (Reader.betweenTags found).run written = Reader.betweenTags (tags.reverse ++ found) := by
  induction entries with
  | nil => exact ⟨[], [], rfl, by decide, rfl, fun _ => rfl⟩
  | cons e entries ih =>
    rw [List.forall_mem_cons] at h
    obtain ⟨first, tag, hfirst, hfirstClean, htag, hfirstRun⟩ := exists_line h.1
    -- a line break stands behind every line but the last
    by_cases hlast : entries = []
    · subst hlast
      refine ⟨first, [tag], hfirst, hfirstClean, ?_, hfirstRun⟩
      rw [List.filterMap_cons_some htag]
      rfl
    · obtain ⟨rest, tags, hrest, hrestClean, htags, hrestRun⟩ := ih h.2
      have hall : (tag :: tags).filterMap declaration? = (e :: entries).map Entry.declaration := by
        rw [List.filterMap_cons_some htag, htags, List.map_cons]
      refine ⟨first ++ ("\n".toList ++ rest), tag :: tags, ?_, ?_, hall, ?_⟩
      · rw [List.map_cons, Text.join_cons _ _ (by simp [hlast]), hfirst, hrest, Text.ofChars_append,
          Text.ofChars_append, List.append_assoc]
        rfl
      · exact hfirstClean.append (IsClean.append (by decide) hrestClean)
      · intro found
        have hline : ∀ found, (Reader.betweenTags found).run "\n".toList = Reader.betweenTags found :=
          fun _ => rfl
        rw [Reader.run_append, hfirstRun, Reader.run_append, hline, hrestRun, List.reverse_cons,
          List.append_assoc, List.singleton_append]

/-- The meta elements of a page are those of its lines. -/
theorem exists_page {entries : List Entry} (h : ∀ e ∈ entries, e.IsWritable) :
    ∃ page, ofDeclarations entries = Text.ofChars page ∧
      declarationsOf page = entries.map Entry.declaration := by
  obtain ⟨written, tags, hwritten, hclean, htags, hrun⟩ := exists_lines h
  refine ⟨"<!DOCTYPE html>\n<html>\n  <head>\n".toList ++ (written ++
    "\n  </head>\n</html>\n".toList), ?_, ?_⟩
  · rw [ofDeclarations, hwritten, Text.ofChars_append, Text.ofChars_append, List.append_assoc]
    rfl
  · have hhead : IsClean "<!DOCTYPE html>\n<html>\n  <head>\n".toList := by decide
    have hfoot : IsClean "\n  </head>\n</html>\n".toList := by decide
    have hpage := hhead.append (hclean.append hfoot)
    rw [declarationsOf, metas, normalized_eq_self (fun hmem => (hpage _ hmem).1 rfl)
      fun hmem => (hpage _ hmem).2 rfl, Reader.run_append, Reader.run_head, Reader.run_append, hrun,
      Reader.found_run_foot, List.append_nil, List.reverse_reverse, htags]

/-- **Round trip.**  The declarations of a page that was written for some are these, in their order and
    with every character, whether the page is read as text or by its bytes. -/
theorem declarations_ofDeclarations {entries : List Entry} (h : ∀ e ∈ entries, e.IsWritable) :
    declarationsOfText (ofDeclarations entries) = .ok (entries.map Entry.declaration) ∧
      declarations (ofDeclarations entries).utf8 = entries.map Entry.declaration := by
  obtain ⟨page, hpage, hdeclarations⟩ := exists_page h
  have hbytes : declarations (ofDeclarations entries).utf8 = entries.map Entry.declaration := by
    rw [declarations, hpage, Utf8.decodeBytewise, Text.decode_utf8, hdeclarations]
  have hencodable : (ofDeclarations entries).notUtf8 = none := by
    rw [hpage]
    exact Text.refused_eq_none_iff.mpr (Text.encodable_ofChars page)
  refine ⟨?_, hbytes⟩
  rw [declarationsOfText, hencodable, hbytes]

/-- Text that looks like markup stays text. -/
def markup : Entry := ⟨"ac-'<b>", "&amp;\t", "\"></head><!-- &lt;\n<meta name=\"ac-x\" 😀"⟩

theorem isWritable_markup : markup.IsWritable where
  ours := by decide
  scope_ne_nil := by decide
  scope_noSpace := by decide
  scope_first := by decide
  template_ne_nil := by decide
  template_first := by decide
  template_last := by decide
  legible := by decide

theorem declarations_ofDeclarations_markup :
    (∀ e ∈ [markup, markup], e.IsWritable) ∧
      declarationsOfText (ofDeclarations [markup, markup]) =
        .ok [markup.declaration, markup.declaration] ∧
      declarations (ofDeclarations [markup, markup]).utf8 =
        [markup.declaration, markup.declaration] := by
  have h : ∀ e ∈ [markup, markup], e.IsWritable := by
    intro e he
    simp only [List.mem_cons, List.not_mem_nil, or_false, or_self] at he
    rw [he]
    exact isWritable_markup
  exact ⟨h, declarations_ofDeclarations h⟩

end Page

end ImageDiscovery
