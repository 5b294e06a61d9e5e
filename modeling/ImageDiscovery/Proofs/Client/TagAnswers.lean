import ImageDiscovery.Proofs.Client.TagDocument
import ImageDiscovery.Proofs.Tag.Accepted

/-!
# Answers with tag data — what a fetch makes of the bytes it is given

Whatever bytes are served for tag data, the fetch either has the data that they tell as a document, or
fails because they tell none; it says then where they came from.  A label that breaks a rule spoils the
whole document, whoever asks for which tag.
-/

namespace ImageDiscovery

open Fetch

namespace TagData

/-- The bytes settle what comes of a fetch that ends at them. -/
structure Settles (final : Text) (bytes : Bytes) (outcome : Except (Failure Error) TagData) : Prop where
  /-- The data is what the document tells. -/
  data : ∀ data, outcome = .ok data ↔
    ∃ v, Json.IsWritten Json.wire.dialect (Json.maxLevels + 1) bytes v ∧
      HasTables v data.aliases data.labels
  /-- There is data where the document has tables and each label set obeys the rules. -/
  returns_iff : (∃ data, outcome = .ok data) ↔
    ∃ v aliases labels, Json.IsWritten Json.wire.dialect (Json.maxLevels + 1) bytes v ∧
      HasTables v aliases labels ∧ ∀ set ∈ labels.toList, IsLabelSet set.2
  refuses : (¬ ∃ data, outcome = .ok data) →
    ∃ cause, outcome = .error (.expected (.invalidDocument final cause))
  /-- One label set is enough to lose the others. -/
  rejects : ∀ {v aliases labels},
    Json.IsWritten Json.wire.dialect (Json.maxLevels + 1) bytes v → HasTables v aliases labels →
      ∀ set ∈ labels.toList, ¬ IsLabelSet set.2 →
        ∃ rejection, checkLabelSets labels = some rejection ∧
          outcome = .error (.expected (.invalidDocument final
            ⟨model, Members.fault ["labels"] (.rejected rejection)⟩))

theorem settles_ofBytes? (final : Text) (bytes : Bytes) :
    Settles final bytes
      ((ofBytes? bytes).mapError fun cause => .expected (.invalidDocument final cause)) := by
  have hok : ∀ data, (ofBytes? bytes).mapError (fun cause =>
      Failure.expected (Error.invalidDocument final cause)) = .ok data ↔ ofBytes? bytes = .ok data := by
    intro data
    cases ofBytes? bytes with
    | ok data' => simp only [Except.mapError, Except.ok.injEq]
    | error cause => exact ⟨nofun, nofun⟩
  constructor
  case data =>
    intro data
    rw [hok, ofBytes?_eq_ok_iff]
  case returns_iff =>
    simp only [hok]
    exact exists_ofBytes?_eq_ok_iff
  case refuses =>
    intro hnone
    cases hread : ofBytes? bytes with
    | ok data => exact absurd ⟨data, by rw [hread]; rfl⟩ hnone
    | error cause => exact ⟨cause, rfl⟩
  case rejects =>
    intro v aliases labels hwritten htables set hset hbad
    cases hrule : checkLabelSets labels with
    | none => exact absurd (checkLabelSets_eq_none_iff.mp hrule set hset) hbad
    | some rejection =>
      rw [ofBytes?_of_checkLabelSets hwritten htables hrule]
      exact ⟨rejection, rfl, rfl⟩

end TagData

namespace Client

variable {client : Client} {r : Request} {status : Int} {location : Option Text} {body : Bytes}
  {document : Endpoint} {allowance : Allowance}

/-- **Exactly the documents of tag data are taken.**  A client that comes to an answer with success, on
    whatever way (`asks_fetchTagData` says where it asks), has the tag data that the bytes tell as a
    document; if they tell none, or one with a label set that breaks a rule, it fails with the place where
    they came from. -/
theorem settles_fetchTagData (hreply : client.server r = .answer status location body)
    (hlocation : location.bind Text.notAscii = none) (hkind : tellsKind r.url.toText = true)
    (hstatus : 200 ≤ status ∧ status ≤ 299)
    (hasked : r ∈ (client.fetchTagData document allowance).requests) :
    TagData.Settles r.url.toText body (client.fetchTagData document allowance).outcome := by
  rw [outcome_fetchTagData_of_answer hreply hlocation hkind hstatus hasked]
  exact TagData.settles_ofBytes? _ _

/-- A document with a name that comes again, a word that is no number, and white space. -/
def repeatedTags : Text :=
  " \x7b\"labels\": \x7b\"b\": \x7b\"version\": \"1\"\x7d\x7d,\n\t"
    ++ "\"aliases\": \x7b\"a\": \"c\", \"a\": \"b\"\x7d, \"other\": NaN\x7d\n"

theorem settles_fetchTagData_repeated :
    let client : Client := {
      config := { dialTimeout := defaultDialTimeout }
      server := fun _ => .answer 203 (some "/elsewhere") repeatedTags.utf8 }
    let data : TagData :=
      ⟨⟨[("a", "b")], by simp⟩, ⟨[("b", ⟨[("version", "1")], by simp⟩)], by simp⟩, by decide⟩
    client.server tagsRequest = .answer 203 (some "/elsewhere") repeatedTags.utf8 ∧
      (some "/elsewhere" : Option Text).bind Text.notAscii = none ∧
      tellsKind tagsRequest.url.toText = true ∧ (200 ≤ (203 : Int) ∧ (203 : Int) ≤ 299) ∧
      tagsRequest ∈ (client.fetchTagData tagsEndpoint .none).requests ∧
      (client.fetchTagData tagsEndpoint .none).outcome = .ok data ∧
      ∃ v, Json.IsWritten Json.wire.dialect (Json.maxLevels + 1) repeatedTags.utf8 v ∧
        TagData.HasTables v data.aliases data.labels := by
  intro client data
  have hasked : tagsRequest ∈ (client.fetchTagData tagsEndpoint .none).requests := by decide +kernel
  have houtcome : (client.fetchTagData tagsEndpoint .none).outcome = .ok data := by decide +kernel
  have hreply : client.server tagsRequest = .answer 203 (some "/elsewhere") repeatedTags.utf8 := rfl
  have hsettles := settles_fetchTagData hreply (by decide) (by decide) (by decide) hasked
  exact ⟨hreply, by decide, by decide, by decide, hasked, houtcome, (hsettles.data data).mp houtcome⟩

/-! ## Documents that are too deep -/

/-- Lists in lists are documents of the grammar itself. -/
theorem valueForm_nested (n : Nat) :
    Json.ValueForm Json.strict (n + 1) (nested n).toText (nested n) := by
  induction n with
  | zero => exact .emptyArray Json.isBlank_nil
  | succ n ih => exact .array Json.isBlank_nil ih (.nil Json.isBlank_nil)

/-- The one member has no name. -/
def deepDocument (n : Nat) : Json := .object [([], nested n)]

theorem isWritten_deepDocument (n : Nat) :
    Json.IsWritten Json.strict (n + 2) (deepDocument n).toText.utf8 (deepDocument n) := by
  have hname : Json.TextForm (Json.quoted []) [] :=
    ⟨by decide, [], [], rfl, .nil, rfl⟩
  have hblank : Json.IsBlank [.char ' '] := by decide
  have hmember : Json.MemberForm Json.strict (n + 1) _ ([], nested n) :=
    .mk hname Json.isBlank_nil hblank (valueForm_nested n)
  have hvalue : Json.ValueForm Json.strict (n + 2) (deepDocument n).toText (deepDocument n) :=
    .object Json.isBlank_nil hmember (.nil Json.isBlank_nil)
  exact ⟨_, (Json.written_toText _).isFormText.encodable, rfl,
    ⟨[], _, [], Json.isBlank_nil, hvalue, Json.isBlank_nil, (List.append_nil _).symm⟩⟩

/-- The grammar is not all that counts: a reader of documents has a depth it does not go beyond. -/
theorem exists_document_refused :
    ¬ ∀ (client : Client) (r : Request) (body : Bytes) (document : Endpoint) (allowance : Allowance),
      client.server r = .answer 200 none body → tellsKind r.url.toText = true →
      r ∈ (client.fetchTagData document allowance).requests →
      (∃ levels members, Json.IsWritten Json.strict levels body (.object members) ∧
        ∀ member ∈ members, member.1 ≠ "aliases" ∧ member.1 ≠ "labels") →
        ∃ data, (client.fetchTagData document allowance).outcome = .ok data := by
  intro h
  let body := (deepDocument 200).toText.utf8
  let client : Client := {
    config := { dialTimeout := defaultDialTimeout }
    server := fun _ => .answer 200 none body }
  have hasked : tagsRequest ∈ (client.fetchTagData tagsEndpoint .none).requests := by decide +kernel
  have hothers : ∀ member ∈ [(([] : Text), nested 200)],
      member.1 ≠ "aliases" ∧ member.1 ≠ "labels" := by
    intro member hmember
    rw [List.mem_singleton.mp hmember]
    decide
  obtain ⟨data, hdata⟩ := h client tagsRequest body tagsEndpoint .none rfl (by decide) hasked
    ⟨_, _, isWritten_deepDocument 200, hothers⟩
  have hunread : Json.ofBytes? body = none := by
    rw [Json.ofBytes?_toText]
    decide +kernel
  have hreply : client.server tagsRequest = .answer 200 none body := rfl
  rw [outcome_fetchTagData hreply (by decide) (by decide) hasked, TagData.ofBytes?, hunread] at hdata
  cases hdata

end Client

end ImageDiscovery
