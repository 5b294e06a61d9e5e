import ImageDiscovery.CommandLine
import ImageDiscovery.Proofs.Identifier
import ImageDiscovery.Proofs.Json.Objects

/-!
# Documents — what a reader gets of an answer

The document of an answer is written with printable points of ASCII and white space, so it reaches
standard output whole.  A reader gets the values of the answer from it, but for halves of surrogate pairs:
where two of them meet in a value, the escapes that are written for them are those of a character.
-/

namespace ImageDiscovery

namespace CommandLine

/-! ## Lines without control sequences -/

def escape : CodePoint := .char '\x1b'

theorem afterControl?_eq_none {t : Text} (h : escape ∉ t) : afterControl? t = none := by
  unfold afterControl?
  split
  · rename_i hprefix
    obtain ⟨rest, rfl⟩ := List.isPrefixOf_iff_prefix.mp hprefix
    exact absurd List.mem_cons_self h
  · rfl

theorem plain_eq_self {t : Text} (h : escape ∉ t) : plain t = t := by
  induction t with
  | nil => rw [plain]
  | cons p t ih =>
    rw [plain]
    split
    · rename_i after hafter
      cases (afterControl?_eq_none h).symm.trans hafter
    · rw [ih fun hmem => h (List.mem_cons_of_mem p hmem)]

theorem line_of_isFormText {t : Text} (h : Json.IsFormText t) : line t = t ++ [.char '\n'] := by
  have hescape : escape ∉ t := fun hmem => absurd (h escape hmem) (by decide)
  rw [line, plain_eq_self hescape]

/-! ## Documents -/

/-- The document of an answer, with its values in other words.  Names of labels and of the app stay. -/
def documentIn (words : Text → Text) (r : Resolution) : Json :=
  .object [("name", .text r.app.name),
    ("labels", .object (r.app.labels.map fun value => .text (words value)).toList),
    ("aci_endpoints", .array (r.images.map fun e =>
      .object [("aci", .text (words e.artifact)), ("asc", .text (words e.signature))])),
    ("public_keys", .array (r.keys.map fun key => .text (words key)))]

/-- The values that the words of a document are for. -/
def values (r : Resolution) : List Text :=
  r.app.labels.toList.map Prod.snd ++ r.images.flatMap (fun e => [e.artifact, e.signature]) ++ r.keys

theorem documentIn_id (r : Resolution) : documentIn id r = document r := rfl

/-- Documents are told in the same words if their values are, and only then. -/
theorem documentIn_eq_iff {f g : Text → Text} {r : Resolution} :
    documentIn f r = documentIn g r ↔ ∀ t ∈ values r, f t = g t := by
  have hlabels : (r.app.labels.map fun value => Json.text (f value)).toList =
      (r.app.labels.map fun value => Json.text (g value)).toList ↔
        ∀ entry ∈ r.app.labels.toList, f entry.2 = g entry.2 := by
    show r.app.labels.toList.map _ = r.app.labels.toList.map _ ↔ _
    simp only [List.map_inj_left, Prod.mk.injEq, true_and, Json.text.injEq]
  simp only [documentIn, values, Json.object.injEq, List.cons.injEq, Prod.mk.injEq, true_and, and_true,
    hlabels, Json.array.injEq, List.map_inj_left, Json.text.injEq, List.forall_mem_append,
    List.forall_mem_map, List.forall_mem_flatMap, List.forall_mem_cons, List.not_mem_nil,
    false_implies, implies_true, and_assoc]

theorem encodable_labels (r : Resolution) {entry : Text × Text} (h : entry ∈ r.app.labels.toList) :
    Text.Encodable entry.1 :=
  fun p hp => Identifier.isChar_of_isPoint ((r.app.of_mem_labels h).2 p hp)

theorem readBack_endpoint (reading : Json.Reading) (e : Endpoint) :
    (Json.object [("aci", .text e.artifact), ("asc", .text e.signature)]).readBack reading =
      .object [("aci", .text (Json.joined none e.artifact)),
        ("asc", .text (Json.joined none e.signature))] :=
  Json.readBack_object reading ["aci", "asc"] rfl (by decide) (by decide)

/-- What is read of the document of an answer.  Identifiers have no halves of pairs. -/
theorem readBack_document (reading : Json.Reading) (r : Resolution) :
    (document r).readBack reading = documentIn Json.paired r := by
  have hname : Json.joined none r.app.name = r.app.name :=
    Json.joined_of_encodable fun p hp => Identifier.isChar_of_isPoint (r.app.isPoint_of_mem_name hp)
  have hlabels := Json.readBack_map (f := Json.text) (fun _ => encodable_labels r) reading
  have himages : Json.itemsBack reading (r.images.map fun e =>
        .object [("aci", .text e.artifact), ("asc", .text e.signature)]) =
      r.images.map fun e => .object [("aci", .text (Json.joined none e.artifact)),
        ("asc", .text (Json.joined none e.signature))] := by
    rw [Json.itemsBack_eq_map, List.map_map]
    exact List.map_congr_left fun e _ => readBack_endpoint reading e
  have hkeys : Json.itemsBack reading (r.keys.map Json.text) =
      r.keys.map fun key => .text (Json.joined none key) := by
    rw [Json.itemsBack_eq_map, List.map_map]
    rfl
  have hmembers : (document r).readBack reading =
      .object [("name", .text (Json.joined none r.app.name)),
        ("labels", (Json.object (r.app.labels.map Json.text).toList).readBack reading),
        ("aci_endpoints", .array (Json.itemsBack reading (r.images.map fun e =>
          .object [("aci", .text e.artifact), ("asc", .text e.signature)]))),
        ("public_keys", .array (Json.itemsBack reading (r.keys.map Json.text)))] :=
    Json.readBack_object reading ["name", "labels", "aci_endpoints", "public_keys"] rfl (by decide) (by decide)
  rw [hmembers, hname, hlabels, himages, hkeys, ← funext Json.joined_eq_paired]
  rfl

/-- A reader that takes halves of pairs goes as deep as the document of an answer is. -/
theorem isReadable_document (r : Resolution) {reading : Json.Reading}
    (hhalves : reading.loneSurrogates = true) (levels : Nat) :
    (document r).isReadable reading (levels + 4) = true := by
  have htakes : ∀ t, reading.takes t = true := fun t => by
    rw [Json.Reading.takes, hhalves, Bool.true_or]
  have htexts : ∀ (levels : Nat) (texts : List (Text × Text)),
      Json.membersReadable reading (levels + 1) (texts.map fun entry => (entry.1, .text entry.2)) =
        true := by
    intro levels texts
    refine Json.membersReadable_iff.mpr (List.forall_mem_map.mpr fun entry _ => ?_)
    exact ⟨htakes _, htakes _⟩
  have himages : Json.itemsReadable reading (levels + 2) (r.images.map fun e =>
      .object ((e.members .image).map fun entry => (entry.1, .text entry.2))) = true :=
    Json.itemsReadable_iff.mpr (List.forall_mem_map.mpr fun e _ => htexts levels _)
  have hkeys : Json.itemsReadable reading (levels + 2) (r.keys.map Json.text) = true :=
    Json.itemsReadable_iff.mpr (List.forall_mem_map.mpr fun key _ => htakes key)
  refine Json.membersReadable_iff.mpr ?_
  simp only [List.forall_mem_cons, htakes, true_and]
  exact ⟨htakes _, htexts (levels + 1) _, himages, hkeys, List.forall_mem_nil _⟩

/-! ## Pages -/

/-- What is written of an answer. -/
def page (r : Resolution) : Text := (document r).toLines 0 ++ [.char '\n']

theorem isFormText_document (r : Resolution) : Json.IsFormText ((document r).toLines 0) :=
  (Json.written_toLines 0 (document r)).isFormText

/-- Standard output takes the document of any answer. -/
theorem write_document (r : Resolution) :
    write (.out ((document r).toLines 0)) = ({ out := page r }, .success) := by
  have hpage : line ((document r).toLines 0) = page r := line_of_isFormText (isFormText_document r)
  have hencodable : (page r).Encodable :=
    (Json.isFormText_append (isFormText_document r) (by decide)).encodable
  rw [write, hpage, if_pos hencodable]

theorem exists_length_page (r : Resolution) : ∃ levels, (page r).length + 1 = levels + 4 := by
  have hform : ∃ rest, (document r).toLines 0 = .char '{' :: (Json.newline 1 ++ rest) :=
    ⟨_, Json.block_cons 0 '{' '}' _ _⟩
  obtain ⟨rest, hform⟩ := hform
  have hnewline : (Json.newline 1).length = 5 := rfl
  refine ⟨(page r).length - 3, ?_⟩
  rw [page, hform, List.length_append, List.length_cons, List.length_append, hnewline]
  omega

/-- **What is read of an answer.**  Its values, with halves of surrogate pairs joined where they meet. -/
theorem ofText?_page (r : Resolution) : Json.ofText? (page r) = some (documentIn Json.paired r) := by
  obtain ⟨levels, hlevels⟩ := exists_length_page r
  have hread := Json.read_written (r := ⟨true, Numeral.maxDigits, false⟩) (by decide)
    (Json.written_toLines 0 (document r)) Json.isBlank_nil
    (show Json.IsBlank [.char '\n'] by decide) (levels + 4)
  rw [if_pos (isReadable_document r rfl levels), readBack_document] at hread
  rw [Json.ofText?, hlevels]
  exact hread

/-- A reader gets an answer as it is if no halves meet in its values, and only then. -/
theorem ofText?_page_eq_document_iff {r : Resolution} :
    Json.ofText? (page r) = some (document r) ↔ ∀ t ∈ values r, Json.HalvesApart t := by
  rw [ofText?_page, ← documentIn_id, Option.some.injEq, documentIn_eq_iff]
  exact forall₂_congr fun t _ => Json.paired_eq_self_iff

end CommandLine

end ImageDiscovery
