import ParticipantRegistry.Proofs.Document.Encodable
import ParticipantRegistry.Proofs.Document.NormalForm

/-!
# Cards that are written again

The element of a card that was read is read as the same card. But there is one only if all its country
codes still consist of two code points: the length of a country code is tested before its capitals are
taken, and capitals can be more than the letters that they stand for.
-/

namespace ParticipantRegistry

open Document Document.Checked

theorem Document.taken_of_readBusinessCard {e : Json} (he : e.isEncodable = true)
    {card : BusinessCard} (hread : (readBusinessCard e).2 = .ok card) : card.Taken := by
  obtain ⟨hchecked, -⟩ := readBusinessCard_ok hread
  exact ensures_checkCard he card hchecked

namespace BusinessCard.Taken

variable {card : BusinessCard}

theorem cardElement (h : card.Taken) : Document.cardElement card =
    if ∀ e ∈ card.entities, e.countryCode.length = 2 then .ok (cardJson card)
    else .error longCountryCode := by
  rw [Document.cardElement, h.normalCard]
  split <;> rfl

theorem exists_long (h : card.Taken) (hlong : ¬∀ e ∈ card.entities, e.countryCode.length = 2) :
    ∃ e ∈ card.entities, 2 < e.countryCode.length := by
  simp only [not_forall] at hlong
  obtain ⟨e, he, hne⟩ := hlong
  have hlength := (h.entities e he).countryCode.length
  exact ⟨e, he, by omega⟩

end BusinessCard.Taken

/-- A card that was read from an element is written, and its element is read as the card, if all its
country codes have two code points. If a country code has become longer, the card is refused. -/
theorem Document.read_card_rewritten (e : Json) (he : e.isEncodable = true) (card : BusinessCard)
    (hread : (readBusinessCard e).2 = .ok card) :
    (∀ entity ∈ card.entities, entity.countryCode.length = 2) ∧
        (∃ value, cardElement card = .ok value ∧ readBusinessCard value = ([], .ok card)) ∨
      (∃ entity ∈ card.entities, 2 < entity.countryCode.length) ∧
        cardElement card = .error [⟨[.member "country_code"], .tooLong⟩] := by
  have htaken := taken_of_readBusinessCard he hread
  obtain ⟨-, hcheck⟩ := readBusinessCard_ok hread
  have helement := htaken.cardElement
  by_cases htwo : ∀ entity ∈ card.entities, entity.countryCode.length = 2
  · rw [if_pos htwo] at helement
    exact .inl ⟨htwo, cardJson card, helement, (htaken.normal hcheck htwo).read⟩
  · rw [if_neg htwo] at helement
    exact .inr ⟨htaken.exists_long htwo, helement⟩

def Document.elementOfCountry (code : Text) : Json :=
  .object [("participant_id", .string " iso6523-actorid-upis::9915:alpha\n"),
    ("entities", .array [.object [("name", .string "Example Ltd"), ("country_code", .string code)]])]

def BusinessCard.ofCountry (code : Text) : BusinessCard where
  participantId := "iso6523-actorid-upis::9915:alpha"
  entities := [⟨"Example Ltd", code, .null, [], [], .null, none⟩]

theorem Document.read_card_rewritten_austrian :
    (elementOfCountry "at").isEncodable = true ∧
      (readBusinessCard (elementOfCountry "at")).2 = .ok (.ofCountry "AT") ∧
      ∃ value, cardElement (.ofCountry "AT") = .ok value ∧
        readBusinessCard value = ([], .ok (.ofCountry "AT")) := by
  have he : (elementOfCountry "at").isEncodable = true := by decide
  have hread : (readBusinessCard (elementOfCountry "at")).2 = .ok (.ofCountry "AT") := by
    decide +kernel
  refine ⟨he, hread, ?_⟩
  rcases read_card_rewritten _ he _ hread with ⟨-, hwritten⟩ | ⟨⟨entity, hentity, hlong⟩, -⟩
  · exact hwritten
  · rw [List.mem_singleton.mp hentity] at hlong
    exact absurd hlong (by decide)

/-- A sharp s becomes two capitals, so not every card that was read is written. -/
theorem Document.read_card_refused : ¬∀ (e : Json) (card : BusinessCard), e.isEncodable = true →
    (readBusinessCard e).2 = .ok card →
      ∃ value, cardElement card = .ok value ∧ (readBusinessCard value).2 = .ok card := by
  intro h
  have hread : (readBusinessCard (elementOfCountry "aß")).2 = .ok (.ofCountry "ASS") := by
    decide +kernel
  have hrefused : cardElement (.ofCountry "ASS") = .error [⟨[.member "country_code"], .tooLong⟩] := by
    decide +kernel
  obtain ⟨value, hvalue, -⟩ := h (elementOfCountry "aß") (.ofCountry "ASS") (by decide) hread
  rw [hrefused] at hvalue
  cases hvalue

end ParticipantRegistry
