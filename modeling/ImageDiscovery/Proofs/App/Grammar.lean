import ImageDiscovery.Proofs.App.Notation

/-!
# Grammar — which texts name an app

A text is spelled out, cut at its commas, and each segment cut at its first equal sign.  The texts that
name an app are those whose segments pass a few checks, each of one segment but for the one that no label
comes twice; what is read is what stands in the segments, and every other text is refused as a whole.
-/

namespace ImageDiscovery

namespace App

/-! ## Segments -/

def segments (t : Text) : List Text := (spelledOut t).split (.char ',')

/-- What stands before the first equal sign of a segment. -/
def labelOf (part : Text) : Text := (part.cut (.char '=')).1

/-- What stands behind the first equal sign of a segment. -/
def valueOf (part : Text) : Text := (part.cut (.char '=')).2.getD []

def entryOf (part : Text) : Text × Text := (labelOf part, valueOf part)

theorem entryOf_segment {entry : Text × Text} (h : .char '=' ∉ entry.1) :
    entryOf (segment entry) = entry := by
  have hcut : (segment entry).cut (.char '=') = (entry.1, some entry.2) := Text.cut_append h _
  rw [entryOf, labelOf, valueOf, hcut]
  rfl

/-- A segment with an equal sign is made of its label and its value. -/
theorem segment_entryOf {part : Text} (h : .char '=' ∈ part) :
    segment (entryOf part) = part ∧ .char '=' ∉ labelOf part := by
  cases hcut : part.cut (.char '=') with
  | mk label value? =>
    have hentry : entryOf part = (label, value?.getD []) := by
      rw [entryOf, labelOf, valueOf, hcut]
    have hlabel : labelOf part = label := congrArg Prod.fst hentry
    rw [hentry, hlabel]
    cases value? with
    | none => exact absurd h ((Text.cut_eq_none hcut).1 ▸ (Text.cut_eq_none hcut).2)
    | some value =>
      rcases Text.cut_eq_some hcut with ⟨hpart, hsign⟩
      exact ⟨hpart.symm, hsign⟩

/-- What is asked of the segments of a text that names an app.  The first one holds the name. -/
structure InGrammar (t : Text) : Prop where
  signs : ∀ part ∈ segments t, .char '=' ∈ part
  encodable : ∀ part ∈ segments t, (valueOf part).Encodable
  name : ∀ part ∈ (segments t).head?, isIdentifier (valueOf part) = true
  distinct : ((segments t).tail.map labelOf).Nodup
  unreserved : ∀ part ∈ (segments t).tail, labelOf part ≠ reservedLabel
  labels : ∀ part ∈ (segments t).tail, isIdentifier (labelOf part) = true
  lengths : ∀ part ∈ (segments t).tail, (valueOf part).length ≤ maxLabelLength

variable {t : Text} {app : App}

/-- The name and the labels of an app as they stand in the segments of a text. -/
structure StandsIn (app : App) (t : Text) : Prop where
  name : (segments t).head?.map valueOf = some app.name
  labels : app.labels.toList = (segments t).tail.map entryOf

/-! ## Texts that are read -/

theorem map_entryOf_segment {entries : List (Text × Text)} (h : ∀ entry ∈ entries, Legible entry) :
    (entries.map segment).map entryOf = entries := by
  rw [List.map_map]
  have hself : entries.map (entryOf ∘ segment) = entries.map id :=
    List.map_congr_left fun entry hentry => entryOf_segment (h entry hentry).1
  rw [hself, List.map_id]

theorem standsIn_of_read (h : read t = .ok app) : StandsIn app t := by
  rcases read_eq_ok_iff.mp h with ⟨first, hsplit, hlegible⟩
  have hentries : (segments t).map entryOf = (first, app.name) :: app.labels.toList := by
    rw [segments, hsplit, map_entryOf_segment hlegible]
  constructor
  · have hhead := congrArg (fun entries => entries.head?.map Prod.snd) hentries
    simpa [Function.comp_def, entryOf] using hhead
  · have htail := congrArg List.tail hentries
    rw [← List.map_tail] at htail
    exact htail.symm

theorem inGrammar_of_read (h : read t = .ok app) : InGrammar t := by
  have hstands := standsIn_of_read h
  rcases read_eq_ok_iff.mp h with ⟨first, hsplit, hlegible⟩
  have hparts : ∀ part ∈ segments t, .char '=' ∈ part ∧ (valueOf part).Encodable := by
    intro part hpart
    rw [segments, hsplit] at hpart
    rcases List.mem_map.mp hpart with ⟨entry, hentry, rfl⟩
    have hvalue : valueOf (segment entry) = entry.2 :=
      congrArg Prod.snd (entryOf_segment (hlegible entry hentry).1)
    rw [hvalue]
    exact ⟨by simp [segment], (hlegible entry hentry).2⟩
  -- the labels of the app are those of the segments, and each of them was checked
  have hlabels : ∀ part ∈ (segments t).tail, labelOf part ≠ reservedLabel ∧
      isIdentifier (labelOf part) = true ∧ (valueOf part).length ≤ maxLabelLength := by
    intro part hpart
    apply checkLabel_eq_none_iff.mp
    apply checkLabels_eq_none_iff.mp app.labels_ok (entryOf part)
    rw [hstands.labels]
    exact List.mem_map_of_mem hpart
  constructor
  case signs => exact fun part hpart => (hparts part hpart).1
  case encodable => exact fun part hpart => (hparts part hpart).2
  case name =>
    intro part hpart
    have hname := hstands.name
    rw [hpart, Option.map_some] at hname
    rw [Option.some.inj hname]
    exact isIdentifier_of_checkIdentifier app.name_ok
  case distinct =>
    have hdistinct := app.labels.distinct
    rw [hstands.labels, List.map_map] at hdistinct
    exact hdistinct
  case unreserved => exact fun part hpart => (hlabels part hpart).1
  case labels => exact fun part hpart => (hlabels part hpart).2.1
  case lengths => exact fun part hpart => (hlabels part hpart).2.2

theorem exists_read_of_inGrammar (h : InGrammar t) : ∃ app, read t = .ok app := by
  rcases List.exists_cons_of_ne_nil (Text.split_ne_nil (.char ',') (spelledOut t)) with
    ⟨first, rest, hsplit⟩
  have hsegments : segments t = first :: rest := hsplit
  have hentries : ∀ part ∈ segments t, segment (entryOf part) = part ∧ Legible (entryOf part) := by
    intro part hpart
    rcases segment_entryOf (h.signs part hpart) with ⟨hsegment, hsign⟩
    exact ⟨hsegment, hsign, h.encodable part hpart⟩
  have htail : ∀ part ∈ rest, part ∈ (segments t).tail := fun part hpart => by
    rw [hsegments]
    exact hpart
  -- the app of which the segments tell
  have hdistinct : ((rest.map entryOf).map Prod.fst).Nodup := by
    have hlabels := h.distinct
    rw [hsegments] at hlabels
    rw [List.map_map]
    exact hlabels
  have hname : checkIdentifier (valueOf first) = none := by
    rw [checkIdentifier, if_pos (h.name first (by rw [hsegments]; rfl))]
  have hlabels : checkLabels ⟨rest.map entryOf, hdistinct⟩ = none := by
    rw [checkLabels_eq_none_iff]
    intro entry hentry
    rcases List.mem_map.mp hentry with ⟨part, hpart, rfl⟩
    have hmem := htail part hpart
    exact checkLabel_eq_none_iff.mpr ⟨h.unreserved part hmem, h.labels part hmem, h.lengths part hmem⟩
  refine ⟨⟨valueOf first, ⟨rest.map entryOf, hdistinct⟩, hname, hlabels⟩, ?_⟩
  rw [read_eq_ok_iff]
  refine ⟨labelOf first, ?_, ?_⟩
  · show (spelledOut t).split (.char ',') = ((first :: rest).map entryOf).map segment
    rw [List.map_map, hsplit]
    have hself : (first :: rest).map (segment ∘ entryOf) = (first :: rest).map id :=
      List.map_congr_left fun part hpart => (hentries part (hsegments ▸ hpart)).1
    rw [hself, List.map_id]
  · show ∀ entry ∈ (first :: rest).map entryOf, Legible entry
    intro entry hentry
    rcases List.mem_map.mp hentry with ⟨part, hpart, rfl⟩
    exact (hentries part (hsegments ▸ hpart)).2

/-! ## Texts that are refused -/

theorem collect_ne_unreadable {labels : Mapping Text} {entries : List (Text × Text)}
    (h : ∀ entry ∈ entries, Legible entry) (label : Text) :
    collect labels (entries.map encoded) ≠ .error (.unreadableValue label) := by
  induction entries generalizing labels with
  | nil =>
    intro heq
    cases heq
  | cons entry entries ih =>
    rw [List.forall_mem_cons] at h
    rw [List.map_cons, encoded, collect, readValue_encodeValue entry.1 h.1.2]
    show (if entry.1 = reservedLabel then _ else _) ≠ _
    split
    · intro heq
      cases heq
    · split
      · intro heq
        cases heq
      · exact ih h.2

/-- A value that has a percent form is the value of that form. -/
theorem read_ne_unreadable (t label : Text) : read t ≠ .error (.unreadableValue label) := by
  intro h
  rcases of_bind_eq_error h with hsegments | ⟨forms, hforms, h⟩
  · rcases exists_of_mapM_eq_error hsegments with ⟨part, -, hpart⟩
    unfold readSegment at hpart
    split at hpart
    · exact nomatch hpart
    · split at hpart
      · exact nomatch hpart
      · exact nomatch hpart
  · rcases mapM_readSegment_eq_ok_iff.mp hforms with ⟨entries, hlegible, -, rfl⟩
    cases entries with
    | nil => exact nomatch h
    | cons entry entries =>
      rw [List.forall_mem_cons] at hlegible
      rcases of_bind_eq_error h with hname | ⟨name, -, h⟩
      · rw [readValue_encodeValue entry.1 hlegible.1.2] at hname
        exact nomatch hname
      · rcases of_bind_eq_error h with hlabels | ⟨labels, -, h⟩
        · exact collect_ne_unreadable hlegible.2 label hlabels
        · cases hmake : make? name labels with
          | error cause =>
            rw [hmake] at h
            exact nomatch h
          | ok app =>
            rw [hmake] at h
            exact nomatch h

/-- **The grammar of apps.**  A text is read as an app if and only if its segments are as the grammar
    asks.  The name and the labels that are read are what stands in the segments, in their order.  Any
    other text is refused, as the text that it is, for what is wrong with its segments: no value that
    has a percent form fails to come back from it. -/
theorem ofText?_grammar (t : Text) :
    ((∃ app, ofText? t = .ok app) ↔ InGrammar t) ∧
      (∀ app, ofText? t = .ok app → StandsIn app t) ∧
      (¬ InGrammar t → ∃ problem, read t = .error problem ∧
        ofText? t = .error (.malformed t problem.message)) ∧
      ∀ label, read t ≠ .error (.unreadableValue label) := by
  have hiff : (∃ app, ofText? t = .ok app) ↔ InGrammar t := by
    constructor
    · intro ⟨app, happ⟩
      exact inGrammar_of_read (ofText?_eq_ok_iff.mp happ)
    · intro h
      rcases exists_read_of_inGrammar h with ⟨app, happ⟩
      exact ⟨app, ofText?_eq_ok_iff.mpr happ⟩
  refine ⟨hiff, ?_, ?_, read_ne_unreadable t⟩
  · intro app happ
    exact standsIn_of_read (ofText?_eq_ok_iff.mp happ)
  · intro hnot
    cases hread : read t with
    | error problem =>
      refine ⟨problem, rfl, ?_⟩
      rw [ofText?, hread]
      rfl
    | ok app => exact absurd (hiff.mp ⟨app, ofText?_eq_ok_iff.mpr hread⟩) hnot

theorem ofText?_grammar_version :
    (∃ app, ofText? "example.com/a:1=2,os=" = .ok app ∧ app.name = "example.com/a" ∧
      app.labels.toList = ([("version", "1=2"), ("os", "")] : List (Text × Text))) ∧
    ∃ problem, ofText? "a:1,b" = .error (.malformed "a:1,b" (NotationProblem.message problem)) := by
  constructor
  · have hgrammar : InGrammar "example.com/a:1=2,os=" := by
      constructor
      all_goals decide +kernel
    rcases ofText?_grammar "example.com/a:1=2,os=" with ⟨haccepts, hstands, -, -⟩
    rcases haccepts.mpr hgrammar with ⟨app, happ⟩
    have hname := (hstands app happ).name
    rw [show (segments "example.com/a:1=2,os=").head?.map valueOf = some (Text.ofString "example.com/a") by
      decide +kernel] at hname
    refine ⟨app, happ, (Option.some.inj hname).symm, ?_⟩
    rw [(hstands app happ).labels]
    decide +kernel
  · -- the last segment has no equal sign
    have hrefused : ¬ InGrammar "a:1,b" := fun h => absurd (h.signs "b" (by decide)) (by decide)
    rcases (ofText?_grammar "a:1,b").2.2.1 hrefused with ⟨problem, -, hproblem⟩
    exact ⟨problem, hproblem⟩

end App

end ImageDiscovery
