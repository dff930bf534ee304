import ParticipantRegistry.Proofs.Document.Acceptance
import ParticipantRegistry.Proofs.Document.Elements
import ParticipantRegistry.Proofs.Text.Capitals

/-!
# Elements that can be encoded

If all texts in an element have an encoded form, all texts of what is read from it have one: the required
ones are only taken if they do, trimming and capitals keep it so, and the others are taken as they are.
The required texts are trimmed and filled as they are read, and the country codes are in capitals.
-/

namespace ParticipantRegistry

namespace Json

mutual

def isEncodable : Json → Bool
  | .string t => t.isUnicode
  | .array items => itemsEncodable items
  | .object ms => membersEncodable ms
  | _ => true

def itemsEncodable : List Json → Bool
  | [] => true
  | v :: vs => v.isEncodable && itemsEncodable vs

def membersEncodable : Members → Bool
  | [] => true
  | m :: ms => m.2.isEncodable && membersEncodable ms

end

theorem membersEncodable_eq (ms : Members) : membersEncodable ms = ms.all (·.2.isEncodable) := by
  induction ms with
  | nil => rfl
  | cons m ms ih => rw [membersEncodable, ih, List.all_cons]

theorem isEncodable_of_lookup {ms : Members} {name : Text} {value : Json}
    (h : membersEncodable ms = true) (hlookup : ms.lookup name = some value) :
    value.isEncodable = true := by
  rw [membersEncodable_eq, List.all_eq_true] at h
  obtain ⟨before, after, rfl, -⟩ := List.lookup_eq_some_iff.mp hlookup
  exact h (name, value) (by simp)

end Json

namespace Document

namespace Checked

variable {α β : Type} {P : α → Prop} {Q : β → Prop}

/-- A value that is accepted has a property. -/
def Ensures (c : Checked α) (P : α → Prop) : Prop := ∀ a, c.result = .ok a → P a

theorem ensures_valid {a : α} (h : P a) : (valid a).Ensures P := fun b hb => by
  cases hb
  exact h

theorem ensures_flawed (flaw : Flaw) : (flawed flaw : Checked α).Ensures P := fun a ha => by cases ha

theorem Ensures.map {c : Checked α} {f : α → β} (h : c.Ensures P) (hf : ∀ a, P a → Q (f a)) :
    (f <$> c).Ensures Q := by
  intro b hb
  change c.result.map f = .ok b at hb
  cases hc : c.result with
  | ok a =>
    rw [hc] at hb
    cases hb
    exact hf a (h a hc)
  | error problems =>
    rw [hc] at hb
    cases hb

theorem Ensures.seq {f : Checked (α → β)} {c : Checked α}
    (hf : f.Ensures fun g => ∀ a, P a → Q (g a)) (hc : c.Ensures P) : (f <*> c).Ensures Q := by
  intro b hb
  change (f.seq c).result = .ok b at hb
  cases hg : f.result with
  | ok g =>
    cases ha : c.result with
    | ok a =>
      simp only [Checked.seq, hg, ha] at hb
      cases hb
      exact hf g hg a (hc a ha)
    | error problems =>
      simp only [Checked.seq, hg, ha] at hb
      cases hb
  | error problems =>
    cases ha : c.result <;> simp only [Checked.seq, hg, ha] at hb <;> cases hb

theorem Ensures.under {c : Checked α} (h : c.Ensures P) (step : Step) : (c.under step).Ensures P := by
  intro a ha
  change c.result.mapError _ = .ok a at ha
  cases hc : c.result with
  | ok b =>
    rw [hc] at ha
    cases ha
    exact h _ hc
  | error problems =>
    rw [hc] at ha
    cases ha

section Values

variable {check : Json → Checked α} (hcheck : ∀ v : Json, v.isEncodable = true → (check v).Ensures P)

include hcheck

theorem ensures_items {items : List Json} (h : Json.itemsEncodable items = true) (index : Nat) :
    (Checked.items check index items).Ensures fun as => ∀ a ∈ as, P a := by
  induction items generalizing index with
  | nil => exact ensures_valid (List.forall_mem_nil _)
  | cons v items ih =>
    rw [Json.itemsEncodable, Bool.and_eq_true] at h
    have hfirst := (hcheck v h.1).under (.item index)
    have hcons : ((check v).under (.item index)).map List.cons |>.Ensures
        fun g => ∀ as, (∀ a ∈ as, P a) → ∀ a ∈ g as, P a :=
      hfirst.map fun a ha as has => List.forall_mem_cons.mpr ⟨ha, has⟩
    exact hcons.seq (ih h.2 (index + 1))

theorem ensures_array {v : Json} (h : v.isEncodable = true) :
    (array check v).Ensures fun as => ∀ a ∈ as, P a := by
  cases v with
  | array items => exact ensures_items hcheck h 0
  | _ => exact ensures_flawed .notArray

theorem ensures_required {ms : Json.Members} (h : Json.membersEncodable ms = true) (name : Text) :
    (required name check ms).Ensures P := by
  rw [required]
  split
  · next value hlookup => exact (hcheck value (Json.isEncodable_of_lookup h hlookup)).under _
  · exact (ensures_flawed .missing).under _

theorem ensures_optional {ms : Json.Members} (h : Json.membersEncodable ms = true) (name : Text)
    {default : α} (hdefault : P default) : (optional name default check ms).Ensures P := by
  rw [optional]
  split
  · next value hlookup => exact (hcheck value (Json.isEncodable_of_lookup h hlookup)).under _
  · exact ensures_valid hdefault

end Values

section Objects

variable {kind : ElementKind} {known : List Text} {check : Json.Members → Checked α}

theorem ensures_members {ms : Json.Members} (h : (check ms).Ensures P) :
    (object kind known check (.object ms)).Ensures P := by
  intro a ha
  by_cases hnames : ∀ name ∈ Json.names ms, name ∉ known → name.isUnicode = true
  · rw [object_result hnames] at ha
    exact h a ha
  · rw [object_refused hnames] at ha
    cases ha

theorem ensures_object (hcheck : ∀ ms, Json.membersEncodable ms = true → (check ms).Ensures P)
    {v : Json} (h : v.isEncodable = true) : (object kind known check v).Ensures P := by
  cases v with
  | object ms => exact ensures_members (hcheck ms h)
  | _ => exact ensures_flawed .notObject

end Objects

end Checked

open Checked

theorem ensures_plainText {v : Json} (h : v.isEncodable = true) :
    (plainText v).Ensures fun t => t.isUnicode = true := by
  cases v with
  | string t => exact ensures_valid h
  | _ => exact ensures_flawed .notText

theorem ensures_optionalText {v : Json} (h : v.isEncodable = true) :
    (optionalText v).Ensures fun t? => ∀ t ∈ t?, t.isUnicode = true := by
  cases v with
  | null => exact ensures_valid (by simp)
  | string t =>
    have ht : t.isUnicode = true := h
    exact ensures_valid (by simpa using ht)
  | _ => exact fun a ha => by cases ha

theorem ensures_trimmedText (v : Json) : (trimmedText v).Ensures Trimmed := by
  cases v with
  | string t =>
    rw [trimmedText]
    split
    · exact ensures_flawed .notUnicode
    · next h =>
      split
      · exact ensures_flawed .tooShort
      · next hfilled =>
        exact ensures_valid
          ⟨Text.isUnicode_trimBy _ (by simpa using h), Text.trim_trim t, hfilled⟩
  | _ => exact ensures_flawed .notText

/-- The length is compared before the capitals are taken, so it is only known not to fall short. -/
theorem ensures_countryCode (v : Json) : (countryCode v).Ensures Capitals := by
  cases v with
  | string t =>
    rw [countryCode]
    split
    · exact ensures_flawed .notUnicode
    · next h =>
      split
      · exact ensures_flawed .tooShort
      · next hlength =>
        split
        · exact ensures_flawed .tooLong
        · have hupper := Text.length_le_length_upper t.trim
          exact ensures_valid
            { isUnicode := Text.isUnicode_upper (Text.isUnicode_trimBy _ (by simpa using h))
              trim := Text.trim_upper (Text.trim_trim t)
              length := by omega
              upper := Text.upper_upper t.trim }
  | _ => exact ensures_flawed .notText

theorem ensures_freeText {v : Json} (h : v.isEncodable = true) :
    (freeText v).Ensures fun value =>
      value.isTextual = true ∧ ∀ t ∈ value.text?, t.isUnicode = true := by
  refine (ensures_optionalText h).map fun t? ht => ?_
  cases t? with
  | none => exact ⟨rfl, by simp [Json.ofText?, Json.text?]⟩
  | some t => exact ⟨rfl, by simpa [Json.ofText?, Json.text?] using ht⟩

namespace EndpointElement

def texts (e : EndpointElement) : List Text :=
  [e.documentType, e.process, e.transportProfile, e.endpointUrl] ++ e.certificate.toList ++
    e.serviceDescription.toList ++ e.technicalContactUrl.toList ++ e.extension.toList

theorem Normal.isUnicode {e : EndpointElement} (h : e.Normal) : ∀ t ∈ e.texts, t.isUnicode = true := by
  simp only [texts, List.forall_mem_append, List.forall_mem_cons, Option.mem_toList]
  exact ⟨⟨⟨⟨⟨h.documentType.isUnicode, h.process.isUnicode, h.transportProfile.isUnicode,
    h.endpointUrl.isUnicode, by simp⟩, h.certificate⟩, h.serviceDescription⟩,
    h.technicalContactUrl⟩, h.extension⟩

end EndpointElement

namespace RedirectElement

def texts (r : RedirectElement) : List Text :=
  [r.documentType, r.targetHref] ++ r.subjectUniqueIdentifier.toList ++ r.certificate.toList ++
    r.extension.toList

theorem Normal.isUnicode {r : RedirectElement} (h : r.Normal) : ∀ t ∈ r.texts, t.isUnicode = true := by
  simp only [texts, List.forall_mem_append, List.forall_mem_cons, Option.mem_toList]
  exact ⟨⟨⟨⟨h.documentType.isUnicode, h.targetHref.isUnicode, by simp⟩,
    h.subjectUniqueIdentifier⟩, h.certificate⟩, h.extension⟩

end RedirectElement

namespace GroupElement

def ownTexts (g : GroupElement) : List Text := [g.participantId, g.ownerId] ++ g.extension.toList

/-- All texts of a group and its children have an encoded form. -/
structure Encodable (g : GroupElement) : Prop where
  own : ∀ t ∈ g.ownTexts, t.isUnicode = true
  endpoints : ∀ e ∈ g.endpoints, ∀ t ∈ e.texts, t.isUnicode = true
  redirects : ∀ r ∈ g.redirects, ∀ t ∈ r.texts, t.isUnicode = true

theorem Normal.encodable {g : GroupElement} (h : g.Normal) : g.Encodable where
  own := by
    simp only [ownTexts, List.forall_mem_append, List.forall_mem_cons, Option.mem_toList]
    exact ⟨⟨h.participantId.isUnicode, h.ownerId.isUnicode, by simp⟩, h.extension⟩
  endpoints e he := (h.endpoints e he).isUnicode
  redirects r hr := (h.redirects r hr).isUnicode

end GroupElement

section Members

variable {ms : Json.Members} (h : Json.membersEncodable ms = true) (name : Text)

include h

theorem ensures_requiredText :
    (required name trimmedText ms).Ensures Trimmed :=
  ensures_required (fun v _ => ensures_trimmedText v) h name

theorem ensures_optionalMember :
    (optional name none optionalText ms).Ensures fun t? => ∀ t ∈ t?, t.isUnicode = true :=
  ensures_optional (fun _ => ensures_optionalText) h name (by simp)

theorem ensures_freeMember :
    (optional name .null freeText ms).Ensures fun value =>
      value.isTextual = true ∧ ∀ t ∈ value.text?, t.isUnicode = true :=
  ensures_optional (fun _ => ensures_freeText) h name ⟨rfl, by simp [Json.text?]⟩

end Members

theorem ensures_checkEndpoint {v : Json} (h : v.isEncodable = true) :
    (checkEndpoint v).Ensures EndpointElement.Normal := by
  refine ensures_object (fun ms hms => ?_) h
  have hrequired := ensures_requiredText hms
  have hoptional := ensures_optionalMember hms
  refine .seq (.seq (.seq (.seq (.seq (.seq (.seq (.map (hrequired _) ?_) (hrequired _))
    (hrequired _)) (hrequired _)) (hoptional _)) (hoptional _)) (hoptional _)) (hoptional _)
  intro a ha b hb c hc d hd e he f hf g hg i hi
  exact ⟨ha, hb, hc, hd, he, hf, hg, hi⟩

theorem ensures_checkRedirect {v : Json} (h : v.isEncodable = true) :
    (checkRedirect v).Ensures RedirectElement.Normal := by
  refine ensures_object (fun ms hms => ?_) h
  have hrequired := ensures_requiredText hms
  have hoptional := ensures_optionalMember hms
  refine .seq (.seq (.seq (.seq (.map (hrequired _) ?_) (hrequired _)) (hoptional _))
    (hoptional _)) (hoptional _)
  intro a ha b hb c hc d hd e he
  exact ⟨ha, hb, hc, hd, he⟩

theorem ensures_checkGroup {v : Json} (h : v.isEncodable = true) :
    (checkGroup v).Ensures GroupElement.Normal := by
  refine ensures_object (fun ms hms => ?_) h
  have hrequired := ensures_requiredText hms
  have hendpoints := ensures_optional (fun _ => ensures_array fun _ => ensures_checkEndpoint) hms
    "endpoints" (List.forall_mem_nil _)
  have hredirects := ensures_optional (fun _ => ensures_array fun _ => ensures_checkRedirect) hms
    "redirects" (List.forall_mem_nil _)
  refine .seq (.seq (.seq (.seq (.map (hrequired _) ?_) (hrequired _))
    (ensures_optionalMember hms _)) hendpoints) hredirects
  intro a ha b hb c hc endpoints he redirects hr
  exact ⟨ha, hb, hc, he, hr⟩

theorem ensures_checkIdentifier {v : Json} (h : v.isEncodable = true) :
    (checkIdentifier v).Ensures BusinessIdentifier.Normal := by
  refine ensures_object (fun ms hms => ?_) h
  have hrequired := ensures_requiredText hms
  refine .seq (.map (hrequired _) ?_) (hrequired _)
  intro a ha b hb
  exact ⟨ha, hb⟩

theorem ensures_checkEntity {v : Json} (h : v.isEncodable = true) :
    (checkEntity v).Ensures BusinessEntity.Taken := by
  refine ensures_object (fun ms hms => ?_) h
  have hfree := ensures_freeMember hms
  have hcountry := ensures_required (fun v _ => ensures_countryCode v) hms "country_code"
  have hidentifiers := ensures_optional (fun _ => ensures_array fun _ => ensures_checkIdentifier) hms
    "identifiers" (List.forall_mem_nil _)
  have hwebsites := ensures_optional (fun _ => ensures_array fun _ => ensures_plainText) hms
    "websites" (List.forall_mem_nil _)
  have hdate : (optional "registration_date" none optionalDate ms).Ensures fun _ => True :=
    fun _ _ => trivial
  refine .seq (.seq (.seq (.seq (.seq (.seq (.map (ensures_requiredText hms _) ?_) hcountry)
    (hfree _)) hidentifiers) hwebsites) (hfree _)) hdate
  intro a ha b hb c hc identifiers hi websites hw d hd date _
  exact ⟨ha, hb, by rw [BusinessEntity.isTextual, hc.1, hd.1]; rfl, hc.2, hi, hw, hd.2⟩

theorem ensures_checkCard {v : Json} (h : v.isEncodable = true) :
    (checkCard v).Ensures BusinessCard.Taken := by
  refine ensures_object (fun ms hms => ?_) h
  have hentities := ensures_optional (fun _ => ensures_array fun _ => ensures_checkEntity) hms
    "entities" (List.forall_mem_nil _)
  refine .seq (.map (ensures_requiredText hms _) ?_) hentities
  intro a ha entities he
  exact ⟨ha, he⟩

end Document

end ParticipantRegistry
