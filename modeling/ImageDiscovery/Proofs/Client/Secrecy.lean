import ImageDiscovery.Proofs.Client.Likeness
import ImageDiscovery.Resolution

/-!
# Secrecy — what logs keep to themselves

Out of debug mode, the log of a client does not depend on the values of secret headers, nor on the
password in a URL that is fetched.  There is one exception: when HTTPS failed and plain text is tried, the
message of the error is logged, and it shows the URL as it is.
-/

namespace ImageDiscovery

open Fetch

/-! ## Two likenesses -/

/-- The record without the message of the error, if it tells that HTTPS failed. -/
def Log.Record.withoutMessage (r : Log.Record) : Log.Record :=
  if r.event = "acdiscovery.fetch.https_failed" then
    { r with fields := r.fields.filter fun (name, _) => name ≠ "error" }
  else r

theorem Log.map_withoutMessage_inj {records records' : List Log.Record}
    (hnone : ∀ r ∈ records, r.event ≠ "acdiscovery.fetch.https_failed")
    (h : records.map Log.Record.withoutMessage = records'.map Log.Record.withoutMessage) :
    records = records' := by
  have hevent : ∀ r : Log.Record, r.withoutMessage.event = r.event := by
    intro r
    unfold Log.Record.withoutMessage
    split <;> rfl
  have hsame : ∀ {r : Log.Record}, r.event ≠ "acdiscovery.fetch.https_failed" → r.withoutMessage = r :=
    fun hr => if_neg hr
  rw [← List.forall₂_eq_eq_eq, List.forall₂_map_left_iff, List.forall₂_map_right_iff] at h
  induction h with
  | nil => rfl
  | @cons r r' records records' hhead hrest ih =>
    rw [List.forall_mem_cons] at hnone
    -- the event is still seen, so the other record has none of this kind either
    have hr' : r'.event ≠ "acdiscovery.fetch.https_failed" := by
      rw [← hevent r', ← hhead, hevent r]
      exact hnone.1
    rw [hsame hnone.1, hsame hr'] at hhead
    rw [hhead, ih hnone.2]

theorem Client.withoutMessage_fallbackRecord (error : FetchError) :
    (Client.fallbackRecord error).withoutMessage =
      { Client.fallbackRecord error with
        fields := [("url", .text (Url.masked error.url)),
          ("status_code", (error.status?.map Json.int).getD .null)] } := by
  have hevent : (Client.fallbackRecord error).event = "acdiscovery.fetch.https_failed" := rfl
  rw [Log.Record.withoutMessage, if_pos hevent]
  rfl

namespace FetchError

theorem Alike.eq {e f : FetchError} (h : FetchError.Alike Eq e f) : e = f := by
  cases h with
  | badStatus hurl status => rw [hurl]
  | connection hurl fault => rw [hurl]

end FetchError

namespace Likeness

/-- Nothing is taken for anything else. -/
def exact : Likeness where
  view := id
  texts := Eq
  urls := Eq
  texts_refl := fun _ => rfl
  urls_refl := fun _ => rfl
  masked := congrArg Url.masked
  written := congrArg Url.toText
  server := by
    rintro u v rfl
    exact .refl u
  fallback := fun h => congrArg Client.fallbackRecord h.eq

theorem exchanges_exact {server : Server} (h : ServesPlaces server) : exact.Exchanges server :=
  exchanges_of_exact h fun _ _ => id

/-- Texts are taken for the same if they are masked alike. -/
def masking : Likeness where
  view := Log.Record.withoutMessage
  texts s t := Url.masked s = Url.masked t
  urls u v := Url.SameServer u v ∧ Url.masked u.toText = Url.masked v.toText
  texts_refl := fun _ => rfl
  urls_refl := fun u => ⟨.refl u, rfl⟩
  masked := id
  written := And.right
  server := And.left
  fallback := by
    intro e f h
    rw [Client.withoutMessage_fallbackRecord, Client.withoutMessage_fallbackRecord]
    have hfields : Url.masked e.url = Url.masked f.url ∧ e.status? = f.status? := by
      cases h with
      | badStatus hurl status => exact ⟨hurl, rfl⟩
      | connection hurl fault => exact ⟨hurl, rfl⟩
    rw [hfields.1, hfields.2]
    rfl

end Likeness

/-! ## Addresses that differ in a password -/

/-- The schemes that a fetch may use. -/
def Allowance.Uses (allowance : Allowance) (scheme : Text) : Prop :=
  scheme = "https" ∨ allowance.plaintext = true ∧ scheme = "http"

theorem Allowance.Uses.isScheme {allowance : Allowance} {scheme : Text} (h : allowance.Uses scheme) :
    Url.IsScheme scheme :=
  Url.isScheme_of_eq (h.imp_right And.right)

namespace Url

/-- Two texts that name URLs which differ in nothing but a password.  Under each scheme that is used both
can be asked for; without a user, what is asked for can be cut into parts. -/
structure ApartByPassword (allowance : Allowance) (s t : Text) : Prop where
  absolute : Text.isWithin "://" s = true ∧ Text.isWithin "://" t = true
  asked : ∀ scheme, allowance.Uses scheme →
    (∃ target u, Asked s scheme target u) ∧ ∃ target u, Asked t scheme target u
  parsed : ∃ user u v, parse s = .ok u ∧ parse t = .ok v ∧ SameButPassword user u v ∧
    (user = [] → ∀ scheme target w, allowance.Uses scheme → Asked s scheme target w →
      LooseUrl.Cuttable target ∧ LooseUrl.Cuttable w.toText)

theorem ApartByPassword.targets {allowance : Allowance} {s t scheme : Text}
    (h : ApartByPassword allowance s t) (hscheme : allowance.Uses scheme) :
    Likeness.masking.Targets scheme s t := by
  have hs := hscheme.isScheme
  obtain ⟨⟨target, u, hu⟩, target', u', hu'⟩ := h.asked scheme hscheme
  obtain ⟨user, v, v', hv, hv', hsame, hcut⟩ := h.parsed
  obtain ⟨v₀, w, hv₀, hw, rfl⟩ := exists_of_replaceScheme h.absolute.1 hu.replaced
  obtain rfl := Except.ok.inj (hv.symm.trans hv₀)
  obtain ⟨v₀', w', hv₀', hw', rfl⟩ := exists_of_replaceScheme h.absolute.2 hu'.replaced
  obtain rfl := Except.ok.inj (hv'.symm.trans hv₀')
  -- `w` is written with the scheme, and `u` is what is read of that again
  have hcuts : user ≠ [] ∨ LooseUrl.Cuttable w.toText ∧ LooseUrl.Cuttable u.toText := by
    by_cases huser : user = []
    · exact .inr (hcut huser scheme _ u hscheme hu)
    · exact .inl huser
  have hwscheme : IsScheme w.scheme := by
    rw [scheme_withScheme hw, hs.lower]
    exact hs
  have huscheme : IsScheme u.scheme := hu.scheme_eq hs ▸ hs
  have hwritten : SameButPassword user w w' := hsame.withScheme hs (isMade_of_parse hv).hasUserPoints
    (isMade_of_parse hv').hasUserPoints hw hw'
  have hread : SameButPassword user u u' :=
    hwritten.of_parse_toText hs hw hw' hu.parsed hu'.parsed
  have htarget : masked w.toText = masked w'.toText := masked_toText hwritten hwscheme
    (of_withScheme hw).2.hasUserPoints (of_withScheme hw').2.hasUserPoints (hcuts.imp_right And.left)
  have hurl : masked u.toText = masked u'.toText := masked_toText hread huscheme
    (isMade_of_parse hu.parsed).hasUserPoints (isMade_of_parse hu'.parsed).hasUserPoints
    (hcuts.imp_right And.right)
  exact .asked hu hu' htarget ⟨hread.sameServer huscheme, hurl⟩

end Url

/-! ## Walks and resolutions -/

theorem Walk.alike_visit {source source' : PageSource}
    (h : ∀ place, Run.Alike id Eq Eq (source place) (source' place)) (app : App) (kind : Kind)
    (attempts : List Attempt) (places : List Text) :
    Run.Alike id Eq Eq (visit source app kind attempts places)
      (visit source' app kind attempts places) := by
  induction places generalizing attempts with
  | nil =>
    apply Run.Alike.told_bind rfl
    exact Run.alike_fail rfl
  | cons place rest ih =>
    -- both pages are the same, or both failed by the same error, so both walks go on with one list
    apply Run.Alike.either (h place)
    · rintro error - rfl
      apply Run.Alike.told_bind rfl
      exact ih _
    · rintro document - rfl
      dsimp only
      split
      · apply Run.Alike.told_bind rfl
        exact ih _
      · apply Run.Alike.told_bind rfl
        exact Run.alike_pure rfl

namespace Client

variable {client client' : Client} {allowance : Allowance}

section

variable (h : client.SameButSecrets client') (hserver : ServesPlaces client.server)
  (hdebug : Log.debugMode client.environment = false)
include h hserver hdebug

theorem alike_fetch_same (t : Text) (allowance : Allowance) :
    Run.Alike id Eq Eq (client.fetch t allowance) (client'.fetch t allowance) := by
  have htargets : ∀ scheme, Likeness.exact.Targets scheme t t := fun _ => .same t
  have hfetch := alike_fetch h (Likeness.exchanges_exact hserver) hdebug (htargets "https")
    fun _ : allowance.plaintext = true => htargets "http"
  apply hfetch.mono
  · exact fun e f => FetchError.Alike.eq
  · rintro ⟨url, body⟩ ⟨url', body'⟩ ⟨hurl, hbody⟩
    cases (show url = url' from hurl)
    cases (show body = body' from hbody)
    rfl

theorem alike_walk (app : App) (kind : Kind) (allowance : Allowance) :
    Run.Alike id Eq Eq (client.walk app kind allowance) (client'.walk app kind allowance) :=
  Walk.alike_visit (fun _ => alike_fetch_same h hserver hdebug _ allowance) app kind [] app.namespaces

omit hserver in
theorem alike_fetchTagData {likeness : Likeness} (hexchanges : likeness.Exchanges client.server)
    {document document' : Endpoint}
    (hsecure : likeness.Targets "https" document.artifact document'.artifact)
    (hplain : allowance.plaintext = true →
      likeness.Targets "http" document.artifact document'.artifact) :
    Run.Alike likeness.view (fun _ _ => True) Eq (client.fetchTagData document allowance)
      (client'.fetchTagData document' allowance) := by
  have hfetch := alike_fetch h hexchanges hdebug hsecure hplain
  apply Run.Alike.bind (hfetch.mapError ?_)
  · rintro ⟨url, body⟩ ⟨url', body'⟩ ⟨hurl, hbody⟩
    cases (show body = body' from hbody)
    dsimp only
    cases TagData.ofBytes? body with
    | error cause => exact Run.alike_fail trivial
    | ok data =>
      -- the documents may differ in their URLs, but these are masked
      have hrecord : Resolution.fetchedRecord url data = Resolution.fetchedRecord url' data := by
        rw [Resolution.fetchedRecord, Resolution.fetchedRecord, likeness.masked hurl]
      dsimp only
      rw [hrecord]
      apply Run.Alike.told_bind rfl
      exact Run.alike_pure rfl
  · exact fun _ _ _ => trivial

theorem alike_fetchTagData_same (document : Endpoint) (allowance : Allowance) :
    Run.Alike id (fun _ _ => True) Eq (client.fetchTagData document allowance)
      (client'.fetchTagData document allowance) := by
  have htargets : ∀ scheme, Likeness.exact.Targets scheme document.artifact document.artifact :=
    fun _ => .same _
  exact alike_fetchTagData h hdebug (Likeness.exchanges_exact hserver) (htargets "https")
    fun _ => htargets "http"

theorem alike_findTagData (app : App) (tag : Text) (allowance : Allowance) :
    Run.Alike id (fun _ _ => True) Eq (client.findTagData app tag allowance)
      (client'.findTagData app tag allowance) := by
  apply Run.Alike.either (alike_walk h hserver hdebug app .tags allowance)
  · rintro exhaustion - rfl
    apply Run.Alike.told_bind rfl
    exact Run.alike_pure rfl
  · rintro found - rfl
    apply Run.Alike.bind (alike_fetchTagData_same h hserver hdebug found.first allowance)
    rintro data - rfl
    exact Run.alike_pure rfl

theorem alike_resolveTag (app : App) (tag : Option Text) (allowance : Allowance) :
    Run.Alike id (fun _ _ => True) Eq (client.resolveTag app tag allowance)
      (client'.resolveTag app tag allowance) := by
  rw [resolveTag, resolveTag]
  split
  · exact Run.alike_pure rfl
  · rename_i tag _
    apply Run.Alike.bind (alike_findTagData h hserver hdebug app tag allowance)
    rintro ⟨attempts, found⟩ - rfl
    apply Run.Alike.bind (Run.alike_ofExcept (.refl (fun _ => trivial) (fun _ => rfl) _))
    rintro merged - rfl
    apply Run.Alike.told_bind rfl
    exact Run.alike_pure rfl

theorem alike_resolve (app : App) (tag : Option Text) (allowance : Allowance) :
    Run.Alike id (fun _ _ => True) Eq (client.resolve app tag allowance)
      (client'.resolve app tag allowance) := by
  apply Run.Alike.bind (alike_resolveTag h hserver hdebug app tag allowance)
  rintro tagged - rfl
  apply Run.Alike.bind ((alike_walk h hserver hdebug tagged.app .images allowance).mapError
    fun _ _ _ => trivial)
  rintro images - rfl
  apply Run.Alike.bind
  · apply Run.Alike.either (alike_walk h hserver hdebug tagged.app .keys allowance)
    · rintro exhaustion - rfl
      apply Run.Alike.told_bind rfl
      exact Run.alike_pure rfl
    · rintro found - rfl
      exact Run.alike_pure rfl
  · rintro ⟨attempts, keys⟩ - rfl
    exact Run.alike_pure rfl

end

/-! ## Whatever a client is told to do -/

/-- What a client logs on the way. -/
def Operation.records (client : Client) (allowance : Allowance) : Operation → List Log.Record
  | .fetch url => (client.fetch url allowance).records
  | .fetchPage place => (client.fetchPage place allowance).records
  | .walk app kind => (client.walk app kind allowance).records
  | .fetchTagData document => (client.fetchTagData document allowance).records
  | .resolve app tag => (client.resolve app tag allowance).records

/-- The same, but for a password in the URL that is fetched. -/
inductive Operation.Alike (allowance : Allowance) : Operation → Operation → Prop where
  | same (operation : Operation) : Alike allowance operation operation
  | fetch {s t : Text} (h : Url.ApartByPassword allowance s t) : Alike allowance (.fetch s) (.fetch t)
  | fetchTagData {document document' : Endpoint}
    (h : Url.ApartByPassword allowance document.artifact document'.artifact) :
    Alike allowance (.fetchTagData document) (.fetchTagData document')

theorem Operation.records_eq (h : client.SameButSecrets client') (hserver : ServesPlaces client.server)
    (hdebug : Log.debugMode client.environment = false) (operation : Operation) :
    operation.records client allowance = operation.records client' allowance := by
  have hrecords : ∀ {ε α : Type} {failures : ε → ε → Prop} {values : α → α → Prop} {x y : Run ε α},
      Run.Alike id failures values x y → x.records = y.records := by
    intro ε α failures values x y hxy
    simpa using hxy.records
  cases operation with
  | fetch url => exact hrecords (alike_fetch_same h hserver hdebug url allowance)
  | fetchPage place => exact hrecords (alike_fetch_same h hserver hdebug _ allowance)
  | walk app kind => exact hrecords (alike_walk h hserver hdebug app kind allowance)
  | fetchTagData document =>
    exact hrecords (alike_fetchTagData_same h hserver hdebug document allowance)
  | resolve app tag => exact hrecords (alike_resolve h hserver hdebug app tag allowance)

theorem Operation.map_records_eq {operation operation' : Operation} (h : client.SameButSecrets client')
    (hserver : ServesPlaces client.server) (hstraight : NeverRedirects client.server)
    (hdebug : Log.debugMode client.environment = false)
    (halike : Operation.Alike allowance operation operation') :
    (operation.records client allowance).map Log.Record.withoutMessage =
      (operation'.records client' allowance).map Log.Record.withoutMessage := by
  have hexchanges : Likeness.masking.Exchanges client.server := exchanges_of_straight hserver hstraight
  cases halike with
  | same => rw [records_eq h hserver hdebug]
  | fetch hapart =>
    exact (alike_fetch h hexchanges hdebug (hapart.targets (.inl rfl))
      fun hplain => hapart.targets (.inr ⟨hplain, rfl⟩)).records
  | fetchTagData hapart =>
    exact (alike_fetchTagData h hdebug hexchanges (hapart.targets (.inl rfl))
      fun hplain => hapart.targets (.inr ⟨hplain, rfl⟩)).records

/-- **Logs keep secrets, but for one message.**  Let a client ask a site in memory, out of debug mode.
    Whatever it is told to do, and wherever it is sent by redirects, the values of secret headers change no
    record.  If the site sends nobody elsewhere, the password in a URL that is fetched changes no field of a
    record either, except for the message of the error when HTTPS failed and plain text is tried; so the
    records are the same if that never happens. -/
theorem records_of_secrets {site : Site} (h : client.SameButSecrets client')
    (hsite : client.server = site.reply) (hdebug : Log.debugMode client.environment = false)
    (allowance : Allowance) :
    (∀ operation : Operation,
      operation.records client allowance = operation.records client' allowance) ∧
      (site.detours = {} → ∀ operation operation', Operation.Alike allowance operation operation' →
        (operation.records client allowance).map Log.Record.withoutMessage =
            (operation'.records client' allowance).map Log.Record.withoutMessage ∧
          ((∀ r ∈ operation.records client allowance, r.event ≠ "acdiscovery.fetch.https_failed") →
            operation.records client allowance = operation'.records client' allowance)) := by
  have hserver : ServesPlaces client.server := hsite ▸ site.servesPlaces
  refine ⟨Operation.records_eq h hserver hdebug, ?_⟩
  intro hdetours operation operation' halike
  have hstraight : NeverRedirects client.server := hsite ▸ Site.neverRedirects hdetours
  have hmap := Operation.map_records_eq h hserver hstraight hdebug halike
  exact ⟨hmap, fun hnone => Log.map_withoutMessage_inj hnone hmap⟩

/-- A client of an empty site that is known to one server. -/
def authorized (value : Text) : Client where
  hostHeaders := ({} : HostHeaders).add ⟨"example.com", "Authorization", value⟩
  config := { dialTimeout := defaultDialTimeout }
  server := ({} : Site).reply

theorem sameButSecrets_authorized {value value' : Text} (h : value.isAscii = value'.isAscii) :
    (authorized value).SameButSecrets (authorized value') := by
  have hsecret : Log.isSecret "Authorization" = true := by decide +kernel
  have hheaders : List.Forall₂ (fun x y : Text × Text => x.1 = y.1 ∧ Log.SecretAlike x.1 x.2 y.2)
      [("Authorization", value)] [("Authorization", value')] :=
    .cons ⟨rfl, .inr ⟨hsecret, h⟩⟩ .nil
  exact ⟨.cons ⟨rfl, hheaders⟩ .nil, rfl, rfl, rfl⟩

def withPassword (password : Text) : Text := "https://user:" ++ password ++ "@example.com/a"

def urlWithPassword (scheme password : Text) : Url :=
  ⟨scheme, "user:" ++ password, "example.com", none, "/a", none, none⟩

theorem sameButPassword_urlWithPassword :
    Url.SameButPassword "user" (urlWithPassword "https" "first") (urlWithPassword "https" "second") where
  scheme := rfl
  host := rfl
  port := rfl
  path := rfl
  query := rfl
  fragment := rfl
  colon := by decide
  passwords := ⟨"first", "second", by decide, by decide, rfl, rfl⟩

theorem apartByPassword_withPassword (allowance : Allowance) :
    Url.ApartByPassword allowance (withPassword "first") (withPassword "second") where
  absolute := ⟨by decide, by decide⟩
  asked := by
    rintro scheme (rfl | ⟨-, rfl⟩)
    · exact ⟨⟨_, urlWithPassword "https" "first", rfl, by decide⟩,
        _, urlWithPassword "https" "second", rfl, by decide⟩
    · exact ⟨⟨_, urlWithPassword "http" "first", rfl, by decide⟩,
        _, urlWithPassword "http" "second", rfl, by decide⟩
  parsed := by
    have hfirst : Url.parse (withPassword "first") = .ok (urlWithPassword "https" "first") := by decide
    have hsecond : Url.parse (withPassword "second") = .ok (urlWithPassword "https" "second") := by
      decide
    exact ⟨"user", _, _, hfirst, hsecond, sameButPassword_urlWithPassword,
      fun huser => absurd huser (by decide)⟩

theorem records_of_secrets_password :
    let client := authorized "one"
    let client' := authorized "other"
    let operation := Operation.fetch (withPassword "first")
    let operation' := Operation.fetch (withPassword "second")
    client.SameButSecrets client' ∧ (∀ allowance, Operation.Alike allowance operation operation') ∧
      operation.records client .all = operation.records client' .all ∧
      (operation.records client .all).map Log.Record.withoutMessage =
        (operation'.records client' .all).map Log.Record.withoutMessage ∧
      operation.records client .none = operation'.records client' .none := by
  intro client client' operation operation'
  have hclients : client.SameButSecrets client' := sameButSecrets_authorized rfl
  have hsite : client.server = ({} : Site).reply := rfl
  have hdebug : Log.debugMode client.environment = false := by decide +kernel
  have halike : ∀ allowance, Operation.Alike allowance operation operation' :=
    fun allowance => .fetch (apartByPassword_withPassword allowance)
  -- without plain text there is no second attempt
  have hnone : ∀ r ∈ operation.records client .none, r.event ≠ "acdiscovery.fetch.https_failed" := by
    decide +kernel
  rcases records_of_secrets hclients hsite hdebug .all with ⟨hheaders, hboth⟩
  have hsecure := (records_of_secrets hclients hsite hdebug .none).2 rfl operation operation'
    (halike .none)
  exact ⟨hclients, halike, hheaders operation, (hboth rfl operation operation' (halike .all)).1,
    hsecure.2 hnone⟩

/-- The message of an error, if a record has one. -/
def message? (r : Log.Record) : Option Text :=
  match Mapping.lookup "error" r.fields with
  | some (.text message) => some message
  | _ => none

/-- When HTTPS failed, the message of the error that is logged shows the password. -/
theorem exists_password_logged :
    ¬ ∀ (site : Site) (client : Client) (s t user : Text) (u v : Url) (allowance : Allowance),
      client.server = site.reply → site.detours = {} →
      Log.debugMode client.environment = false →
      Text.isWithin "://" s = true → Text.isWithin "://" t = true →
      Url.parse s = .ok u → Url.parse t = .ok v → Url.SameButPassword user u v →
        (Operation.fetch s).records client allowance = (Operation.fetch t).records client allowance := by
  intro h
  let client := authorized "one"
  have hrecords := h {} client (withPassword "first") (withPassword "second") "user"
    (urlWithPassword "https" "first") (urlWithPassword "https" "second") .all rfl rfl (by decide +kernel)
    (by decide) (by decide) (by decide) (by decide) sameButPassword_urlWithPassword
  exact absurd (congrArg (List.map message?) hrecords) (by decide +kernel)

end Client

end ImageDiscovery
