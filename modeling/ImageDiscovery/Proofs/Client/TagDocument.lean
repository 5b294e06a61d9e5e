import ImageDiscovery.Proofs.Client.Policy
import ImageDiscovery.Proofs.Tag.Document
import ImageDiscovery.Site

/-!
# Served tag documents — tag data that is fetched as it was served

An answer with a document ends every exchange, attempt and fetch that comes to it, so whatever is asked
for, a client that comes to a document with tag data in it has that data, or learns that it is none.
-/

namespace ImageDiscovery

open Fetch

/-! ## Requests that end a run -/

namespace Run

variable {ε ε' α β : Type}

/-- Should a request be made, the run ends with a value. -/
def EndsAt (r : Request) (a : α) (x : Run ε α) : Prop := r ∈ x.requests → x.outcome = .ok a

variable {r : Request} {a : α} {b : β}

theorem endsAt_of_silent {x : Run ε α} (h : x.requests = []) : EndsAt r a x := by
  intro hmem
  rw [h] at hmem
  exact nomatch hmem

theorem endsAt_bind {x : Run ε α} {f : α → Run ε β} (hx : EndsAt r a x) (hb : (f a).outcome = .ok b)
    (hf : ∀ c, EndsAt r b (f c)) : EndsAt r b (x >>= f) := by
  intro hmem
  cases hc : x.outcome with
  | error failure =>
    rw [requests_bind_of_error hc] at hmem
    exact nomatch hc.symm.trans (hx hmem)
  | ok c =>
    rw [requests_bind_of_ok hc] at hmem
    rw [outcome_bind_of_ok hc]
    -- the request is one of the first run, which ends at it, or of what follows
    obtain hmem | hmem := List.mem_append.mp hmem
    · rw [Except.ok.inj (hc.symm.trans (hx hmem))]
      exact hb
    · exact hf c hmem

theorem endsAt_ofExcept_bind {x : Except (Failure ε) α} {f : α → Run ε β}
    (hf : ∀ c, EndsAt r b (f c)) : EndsAt r b (ofExcept x >>= f) := by
  cases x with
  | ok c => exact hf c
  | error failure => exact endsAt_of_silent rfl

theorem endsAt_told_bind (record : Log.Record) {f : Unit → Run ε β} (hf : EndsAt r b (f ())) :
    EndsAt r b (told record >>= f) := hf

theorem endsAt_either {x : Run ε α} {onError : ε → Run ε' β} {onValue : α → Run ε' β}
    (hx : EndsAt r a x) (hb : (onValue a).outcome = .ok b) (hvalue : ∀ c, EndsAt r b (onValue c))
    (herror : ∀ e, EndsAt r b (onError e)) : EndsAt r b (x.either onError onValue) := by
  intro hmem
  match hc : x.outcome with
  | .ok c =>
    rw [requests_either_of_ok hc] at hmem
    rw [outcome_either_of_ok hc]
    obtain hmem | hmem := List.mem_append.mp hmem
    · rw [Except.ok.inj (hc.symm.trans (hx hmem))]
      exact hb
    · exact hvalue c hmem
  | .error (.expected e) =>
    rw [requests_either_of_expected hc] at hmem
    rw [outcome_either_of_expected hc]
    obtain hmem | hmem := List.mem_append.mp hmem
    · exact nomatch hc.symm.trans (hx hmem)
    · exact herror e hmem
  | .error (.breakdown cause) =>
    rw [requests_either_of_breakdown hc] at hmem
    exact nomatch hc.symm.trans (hx hmem)

theorem endsAt_mapError {x : Run ε α} (hx : EndsAt r a x) (f : ε → ε') :
    EndsAt r a (x.mapError f) :=
  endsAt_either hx rfl (fun _ => endsAt_of_silent rfl) fun _ => endsAt_of_silent rfl

end Run

/-! ## Exchanges and fetches -/

namespace Fetch

variable {server : Server} {r : Request} {status : Int} {location : Option Text} {body : Bytes}

theorem endsAt_send (hreply : server r = .answer status location body)
    (hlocation : location.bind Text.notAscii = none) (hkind : tellsKind r.url.toText = true)
    (request : Request) : (send server request).EndsAt r ⟨r.url, status, location, body⟩ := by
  intro hmem
  rw [requests_send, List.mem_singleton] at hmem
  rw [← hmem, send, Run.outcome_bind, hreply]
  show (receive r (.answer status location body)).outcome = _
  rw [receive, hlocation]
  dsimp only
  rw [if_pos hkind]
  rfl

/-- An answer that points nowhere else ends an exchange. -/
theorem endsAt_exchangeWithin (hreply : server r = .answer status location body)
    (hlocation : location.bind Text.notAscii = none) (hkind : tellsKind r.url.toText = true)
    (hdirect : status ∉ redirectStatuses) (follows : Bool) (left : Nat) (request : Request) :
    (exchangeWithin server follows left request).EndsAt r ⟨r.url, status, location, body⟩ := by
  have hredirect : (⟨r.url, status, location, body⟩ : Answer).redirect? = none := if_neg hdirect
  -- an exchange comes to the request in its first step or in a later one
  have hstep : ∀ next : Request → Run TransportFault Answer,
      (∀ redirected, (next redirected).EndsAt r ⟨r.url, status, location, body⟩) → ∀ request,
        (exchangeStep server follows next request).EndsAt r ⟨r.url, status, location, body⟩ := by
    intro next hnext request
    have hlast : (afterAnswer follows next request ⟨r.url, status, location, body⟩).outcome =
        .ok ⟨r.url, status, location, body⟩ := by
      rw [afterAnswer, hredirect]
      rfl
    refine Run.endsAt_bind (endsAt_send hreply hlocation hkind request) hlast fun answer => ?_
    show (afterAnswer follows next request answer).EndsAt _ _
    unfold afterAnswer
    split
    · exact Run.endsAt_of_silent rfl
    · refine Run.endsAt_ofExcept_bind fun redirected => ?_
      split
      · exact hnext redirected
      · exact Run.endsAt_of_silent rfl
  induction left generalizing request with
  | zero => exact hstep _ (fun _ => Run.endsAt_of_silent rfl) request
  | succ left ih => exact hstep _ ih request

end Fetch

namespace Client

variable {client : Client} {r : Request} {status : Int} {location : Option Text} {body : Bytes}

section

variable (hreply : client.server r = .answer status location body)
  (hlocation : location.bind Text.notAscii = none) (hkind : tellsKind r.url.toText = true)
  (hstatus : 200 ≤ status ∧ status ≤ 299)

include hreply hlocation hkind hstatus

theorem endsAt_ask (target : Text) (url : Url) (verified : Bool) :
    (client.ask target url verified).EndsAt r ⟨r.url, status, location, body⟩ := by
  have hdirect : status ∉ redirectStatuses := by
    simp only [redirectStatuses, List.mem_cons, List.not_mem_nil, or_false]
    omega
  refine Run.endsAt_ofExcept_bind fun headers => ?_
  refine Run.endsAt_told_bind _ ?_
  exact Run.endsAt_ofExcept_bind fun request =>
    endsAt_exchangeWithin hreply hlocation hkind hdirect _ _ request

theorem endsAt_attempt (url scheme : Text) (verified : Bool) :
    (client.attempt url scheme verified).EndsAt r ⟨r.url.toText, body⟩ := by
  refine Run.endsAt_ofExcept_bind fun target => ?_
  refine Run.endsAt_ofExcept_bind fun parsed => ?_
  have hasked := Run.endsAt_mapError (endsAt_ask hreply hlocation hkind hstatus target parsed verified)
    (FetchError.connection target)
  refine Run.endsAt_bind hasked ?_ fun answer => Run.endsAt_of_silent (requests_documentOf _ _)
  have hsuccess : (⟨r.url, status, location, body⟩ : Answer).isSuccess = true := by
    simp [Answer.isSuccess, hstatus]
  rw [documentOf, if_pos hsuccess]
  rfl

/-- A document ends every fetch that comes to it. -/
theorem endsAt_fetch (url : Text) (allowance : Allowance) :
    (client.fetch url allowance).EndsAt r ⟨r.url.toText, body⟩ := by
  refine Run.endsAt_either (endsAt_attempt hreply hlocation hkind hstatus _ _ _) rfl
    (fun _ => Run.endsAt_of_silent rfl) fun error => ?_
  split
  · exact Run.endsAt_told_bind _ (endsAt_attempt hreply hlocation hkind hstatus _ _ _)
  · exact Run.endsAt_of_silent rfl

/-- What tag data there is, is that of the answer that was asked for and is no redirect. -/
theorem outcome_fetchTagData_of_answer {document : Endpoint} {allowance : Allowance}
    (hasked : r ∈ (client.fetchTagData document allowance).requests) :
    (client.fetchTagData document allowance).outcome =
      (TagData.ofBytes? body).mapError fun cause =>
        .expected (.invalidDocument r.url.toText cause) := by
  have hfetch := Run.endsAt_mapError
    (endsAt_fetch hreply hlocation hkind hstatus document.artifact allowance) Error.fetch
  have hmade : r ∈ ((client.fetch document.artifact allowance).mapError Error.fetch).requests := by
    rwa [requests_fetchTagData, ← Run.requests_mapError _ Error.fetch] at hasked
  rw [fetchTagData, Run.outcome_bind_of_ok (hfetch hmade)]
  dsimp only
  cases TagData.ofBytes? body <;> rfl

end

/-- What tag data there is, is that of the document. -/
theorem outcome_fetchTagData (hreply : client.server r = .answer status none body)
    (hkind : tellsKind r.url.toText = true) (hstatus : 200 ≤ status ∧ status ≤ 299)
    {document : Endpoint} {allowance : Allowance}
    (hasked : r ∈ (client.fetchTagData document allowance).requests) :
    (client.fetchTagData document allowance).outcome =
      (TagData.ofBytes? body).mapError fun cause =>
        .expected (.invalidDocument r.url.toText cause) :=
  outcome_fetchTagData_of_answer hreply rfl hkind hstatus hasked

/-! ## What is asked for -/

/-- **Tag data is asked for where the endpoint says.**  Whatever servers answer, a client that can send what
    it is told to asks first for what the place of the document names over HTTPS.  Where servers answer
    directly, the first answer is no success and plain text is allowed, it asks there over HTTP too. -/
theorem asks_fetchTagData {document : Endpoint} {target : Text} {u : Url} (hascii : client.AsciiHeaders)
    (hu : Url.Asked document.artifact "https" target u) (hhost : u.host ≠ []) (hname : u.Nameable)
    (allowance : Allowance) :
    (∃ first, first.url = u ∧ first.verified = !allowance.unverified ∧
      (client.fetchTagData document allowance).requests.head? = some first) ∧
      (NeverMisused client.server → NeverRedirects client.server → allowance.plaintext = true →
        ∀ first ∈ (client.fetchTagData document allowance).requests.head?,
          ¬ (client.server first).isSuccess = true →
            ∀ target' u', Url.Asked document.artifact "http" target' u' → u'.host ≠ [] →
              ∃ second, second.url = u' ∧ second.verified = true ∧
                (client.fetchTagData document allowance).requests = [first, second]) := by
  rw [requests_fetchTagData]
  refine ⟨exists_first_request hascii hu hhost hname allowance, ?_⟩
  intro hcalm hstraight hplain first hfirst hfailed target' u' hu' hhost'
  rcases exists_continues ⟨hascii, hcalm, hstraight⟩ allowance hu hhost hname with
    ⟨sent, -, -, hcontinues⟩
  -- however it goes on, the request that was sent is the first one
  have hsame : sent = first := by
    by_cases hsuccess : (client.server sent).isSuccess = true
    · rw [(hcontinues.done (.inl hsuccess)).requests] at hfirst
      exact Option.some.inj hfirst
    · rcases hcontinues.plaintext hsuccess hplain target' u' hu' hhost' with ⟨second, -, -, -, hends⟩
      rw [hends.requests] at hfirst
      exact Option.some.inj hfirst
  rw [hsame] at hcontinues
  rcases hcontinues.plaintext hfailed hplain target' u' hu' hhost' with
    ⟨second, hurl, hattempts, -, hends⟩
  exact ⟨second, hurl, hattempts.verified, hends.requests⟩

/-! ## What a site serves -/

theorem reply_addDocument {site : Site} {location scheme : Text} (document : Json)
    (hdetour : site.detours.get? (Place.ofLocation scheme location).toText = none)
    (hplace : Place.ofUrl r.url = .ofLocation scheme location) :
    (site.addDocument location scheme document).reply r = .answer 200 none document.toText.utf8 := by
  have hroute : (site.addDocument location scheme document).route? (Place.ofUrl r.url) =
      some (.page 200 document.toText.utf8) := by
    rw [hplace, Site.route?]
    exact congrArg (Option.map Prod.snd) (List.find?_cons_of_pos (by simp))
  have hdirect : (site.addDocument location scheme document).detours.get?
      (Place.ofUrl r.url).toText = none := by
    rw [hplace]
    exact hdetour
  unfold Site.reply
  dsimp only
  rw [hroute, hdirect]

/-- **Tag data comes back.**  A client that comes to a document with tag data in it, on whatever way
    (`asks_fetchTagData` says where it asks), has that data again with everything in its order, if the
    reader takes the other members of the document, and so if there are none.  If it does not take them
    all, it takes the document for none. -/
theorem fetchTagData_addDocument {site : Site} {location scheme : Text} {data : TagData}
    {served : Mapping Json} {document : Endpoint} {allowance : Allowance}
    (hserver : client.server = (site.addDocument location scheme (.object served.toList)).reply)
    (hscheme : Url.IsScheme scheme)
    (hdetour : site.detours.get? (Place.ofLocation scheme location).toText = none)
    (hdata : data.IsEncodable) (hserved : data.IsIn served)
    (hasked : r ∈ (client.fetchTagData document allowance).requests)
    (hplace : Place.ofUrl r.url = .ofLocation scheme location) :
    (client.fetchTagData document allowance).outcome =
        (if TagData.TakesOthers served then .ok data
        else .error (.expected (.invalidDocument r.url.toText
          ⟨TagData.model, Members.fault [] .notJson⟩))) ∧
      (.object served.toList = data.toJson →
        (client.fetchTagData document allowance).outcome = .ok data) := by
  have hreply : client.server r = .answer 200 none (Json.object served.toList).toText.utf8 := by
    rw [hserver]
    exact reply_addDocument _ hdetour hplace
  have hkind : tellsKind r.url.toText = true := by
    refine Url.tellsKind_toText ?_
    have hsame : r.url.scheme = scheme := congrArg Place.scheme hplace
    rw [hsame]
    exact hscheme
  have houtcome : (client.fetchTagData document allowance).outcome =
      if TagData.TakesOthers served then .ok data
      else .error (.expected (.invalidDocument r.url.toText
        ⟨TagData.model, Members.fault [] .notJson⟩)) := by
    rw [outcome_fetchTagData hreply hkind (by decide) hasked, TagData.ofBytes?_of_isIn hdata hserved]
    split <;> rfl
  refine ⟨houtcome, fun halone => ?_⟩
  rw [houtcome, if_pos (TagData.takesOthers_of_toJson halone)]

/-- Tag data with signs that are escaped when they are written. -/
def escapedData : TagData where
  aliases := ⟨[("latest", "\"v\\1\""), ("\"v\\1\"", "\x01😀")], by decide⟩
  labels := ⟨[("\x01😀", ⟨[("version", "1\né"), ("arch", [])], by decide⟩)], by decide⟩
  labels_ok := by decide

/-- Lists in lists, and an empty one in the innermost. -/
def nested : Nat → Json
  | 0 => .array []
  | n + 1 => .array [nested n]

/-- The data among other members. -/
def servedBeside (data : TagData) (other : Json) : Mapping Json :=
  ⟨[("labels", .object (data.labels.map TagData.textsJson).toList), ("other", other),
    ("aliases", TagData.textsJson data.aliases)], by simp; decide⟩

def tagsRequest : Request where
  url := ⟨"https", [], "example.com", none, "/tags", none, none⟩
  headers := (Headers.own "acdiscovery").set host "example.com"
  verified := true

def tagsEndpoint : Endpoint := ⟨"https://example.com/tags", "https://example.com/tags.asc"⟩

theorem fetchTagData_addDocument_escaped :
    let client : Client := {
      config := { dialTimeout := defaultDialTimeout }
      server := (({} : Site).addDocument "example.com/tags/" "https"
        (.object (servedBeside escapedData (nested 199)).toList)).reply }
    Url.IsScheme "https" ∧
      ({} : Site).detours.get? (Place.ofLocation "https" "example.com/tags/").toText = none ∧
      escapedData.IsEncodable ∧ escapedData.IsIn (servedBeside escapedData (nested 199)) ∧
      tagsRequest ∈ (client.fetchTagData tagsEndpoint .none).requests ∧
      Place.ofUrl tagsRequest.url = .ofLocation "https" "example.com/tags/" ∧
      (client.fetchTagData tagsEndpoint .none).outcome = .ok escapedData := by
  intro client
  have hdata : escapedData.IsEncodable := ⟨by decide, by decide, by decide⟩
  have hserved : escapedData.IsIn (servedBeside escapedData (nested 199)) := ⟨rfl, rfl⟩
  have hasked : tagsRequest ∈ (client.fetchTagData tagsEndpoint .none).requests := by decide +kernel
  have hplace : Place.ofUrl tagsRequest.url = .ofLocation "https" "example.com/tags/" := by
    decide +kernel
  have hothers : TagData.TakesOthers (servedBeside escapedData (nested 199)) := by decide +kernel
  have hserver : client.server = (({} : Site).addDocument "example.com/tags/" "https"
      (.object (servedBeside escapedData (nested 199)).toList)).reply := rfl
  have hdocument :=
    (fetchTagData_addDocument hserver Url.isScheme_https rfl hdata hserved hasked hplace).1
  rw [if_pos hothers] at hdocument
  exact ⟨Url.isScheme_https, rfl, hdata, hserved, hasked, hplace, hdocument⟩

/-- The reader of documents does not go deeper than two hundred levels, so one more member may be too
    many. -/
theorem exists_tagData_refused :
    ¬ ∀ (site : Site) (location : Text) (data : TagData) (served : Mapping Json)
        (document : Endpoint) (allowance : Allowance) (r : Request),
      let client : Client := {
        config := { dialTimeout := defaultDialTimeout }
        server := (site.addDocument location "https" (.object served.toList)).reply }
      site.detours = {} → data.IsEncodable → data.IsIn served →
      r ∈ (client.fetchTagData document allowance).requests →
      Place.ofUrl r.url = .ofLocation "https" location →
        (client.fetchTagData document allowance).outcome = .ok data := by
  intro h
  let served := servedBeside escapedData (nested 200)
  let client : Client := {
    config := { dialTimeout := defaultDialTimeout }
    server := (({} : Site).addDocument "example.com/tags" "https" (.object served.toList)).reply }
  have hdata : escapedData.IsEncodable := ⟨by decide, by decide, by decide⟩
  have hserved : escapedData.IsIn served := ⟨rfl, rfl⟩
  have hasked : tagsRequest ∈ (client.fetchTagData tagsEndpoint .none).requests := by decide +kernel
  have hplace : Place.ofUrl tagsRequest.url = .ofLocation "https" "example.com/tags" := by
    decide +kernel
  have hreply : client.server tagsRequest = .answer 200 none (Json.object served.toList).toText.utf8 :=
    reply_addDocument _ rfl hplace
  have hothers : ¬ TagData.TakesOthers served := by decide +kernel
  have hdocument := outcome_fetchTagData hreply (by decide) (by decide) hasked
  rw [TagData.ofBytes?_of_isIn hdata hserved, if_neg hothers,
    h {} _ _ served _ _ _ rfl hdata hserved hasked hplace] at hdocument
  exact nomatch hdocument

end Client

end ImageDiscovery
