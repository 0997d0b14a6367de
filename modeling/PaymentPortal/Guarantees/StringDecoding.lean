import PaymentPortal.Model.SoapDecoding

/-!
# Texts of SOAP responses

The fields that the schemas declare as strings are kept as they were sent exactly
where the parser leaves their texts alone.  A text that looks like a number or a
boolean is converted, and its response is rejected.
-/

namespace PaymentPortal.Guarantees

open PaymentPortal.Model

/-- The tags that the schema of a response declares as strings. -/
def stringFields : SoapResponse → List String
  | .startOnlineCollection _ => ["token"]
  | .completeOnlineCollectionWithDetails _ =>
      ["paygov_tracking_id", "agency_tracking_id", "payment_type"]
  | .getDetails _ =>
      ["paygov_tracking_id", "agency_tracking_id", "payment_type"]

/-- The elements whose leaves the schema of a response reads. -/
def elements : SoapResponse → List Leaves
  | .startOnlineCollection leaves => [leaves]
  | .completeOnlineCollectionWithDetails leaves => [leaves]
  | .getDetails transactions => transactions.flatten

/-- The values of tags when string fields are taken as they were sent. -/
def asSent (formats : XmlFormats) (response : SoapResponse)
    (name text : String) : XmlValue :=
  if name ∈ stringFields response then .text text
  else parseTagValue formats text

/-- The parser does not convert the text: trimming would change it, or it looks
like neither a boolean nor a number. -/
def IsLeftAlone (formats : XmlFormats) (text : String) : Prop :=
  text = "" ∨ trimText text ≠ text ∨
    (text ≠ "true" ∧ text ≠ "false" ∧ formats.number text = none)

/-- No string field of the response is converted. -/
def StringsLeftAlone (formats : XmlFormats) (response : SoapResponse) : Prop :=
  ∀ leaves ∈ elements response, ∀ leaf ∈ leaves,
    leaf.1 ∈ stringFields response → IsLeftAlone formats leaf.2

variable {formats : XmlFormats}

/-! ## Members -/

theorem parseTagValue_of_leftAlone {text : String}
    (leftAlone : IsLeftAlone formats text) :
    parseTagValue formats text = .text text := by
  unfold parseTagValue
  rcases leftAlone with empty | untrimmed | ⟨notTrue, notFalse, notNumber⟩
  · rw [if_pos (.inl empty)]
  · rw [if_pos (.inr untrimmed)]
  · simp [notTrue, notFalse, notNumber]

theorem leftAlone_of_parseTagValue {text value : String}
    (kept : parseTagValue formats text = .text value) :
    IsLeftAlone formats text := by
  unfold parseTagValue at kept
  split at kept
  · rename_i untouched
    rcases untouched with empty | untrimmed
    · exact .inl empty
    · exact .inr (.inl untrimmed)
  · split at kept
    · cases kept
    · split at kept
      · cases kept
      · rename_i notTrue notFalse
        split at kept
        · cases kept
        · rename_i notNumber
          exact .inr (.inr ⟨notTrue, notFalse, notNumber⟩)

variable {value other : String → String → XmlValue} {leaves : Leaves}
  {name : String}

/-- A member depends on the values of its own tags only. -/
theorem memberOf_congr
    (same : ∀ leaf ∈ leaves, leaf.1 = name →
      value name leaf.2 = other name leaf.2) :
    memberOf value leaves name = memberOf other leaves name := by
  unfold memberOf
  cases tags : leaves.filter (·.1 = name) with
  | nil => rfl
  | cons leaf rest =>
    cases rest with
    | nil =>
      have own : leaf ∈ leaves.filter (·.1 = name) := by simp [tags]
      obtain ⟨listed, named⟩ := List.mem_filter.1 own
      exact congrArg some (same leaf listed (by simpa using named))
    | cons second more => rfl

/-- A member that is a text is the text of every tag of its name. -/
theorem value_of_memberOf {text : String}
    (member : memberOf value leaves name = some (.text text)) :
    ∀ leaf ∈ leaves, leaf.1 = name → value name leaf.2 = .text text := by
  intro leaf listed named
  have own : leaf ∈ leaves.filter (·.1 = name) :=
    List.mem_filter.2 ⟨listed, by simpa using named⟩
  unfold memberOf at member
  cases tags : leaves.filter (·.1 = name) with
  | nil => simp [tags] at own
  | cons first rest =>
    rw [tags] at own member
    cases rest with
    | nil =>
      rw [List.mem_singleton.1 own]
      simpa using member
    | cons second more => simp at member

theorem memberOf_eq_none {leaf : String × String}
    (absent : memberOf value leaves name = none) (listed : leaf ∈ leaves) :
    leaf.1 ≠ name := by
  intro named
  have own : leaf ∈ leaves.filter (·.1 = name) :=
    List.mem_filter.2 ⟨listed, by simpa using named⟩
  unfold memberOf at absent
  cases tags : leaves.filter (·.1 = name) with
  | nil => simp [tags] at own
  | cons first rest =>
    rw [tags] at absent
    cases rest <;> simp at absent

theorem stringMember_eq_some {member : Option XmlValue} {text : String} :
    stringMember member = some text ↔ member = some (.text text) := by
  unfold stringMember
  cases member with
  | none => simp
  | some value => cases value <;> simp

theorem leftAlone_of_stringMember {text : String}
    (accepted : stringMember
      (memberOf (fun _ => parseTagValue formats) leaves name) = some text) :
    ∀ leaf ∈ leaves, leaf.1 = name → IsLeftAlone formats leaf.2 := by
  intro leaf listed named
  have kept := value_of_memberOf (stringMember_eq_some.1 accepted) leaf listed
    named
  exact leftAlone_of_parseTagValue kept

theorem leftAlone_of_optionalMember {text : Option String}
    (accepted : optionalMember stringMember
      (memberOf (fun _ => parseTagValue formats) leaves name) = some text) :
    ∀ leaf ∈ leaves, leaf.1 = name → IsLeftAlone formats leaf.2 := by
  cases member : memberOf (fun _ => parseTagValue formats) leaves name with
  | none =>
    intro leaf listed named
    exact absurd named (memberOf_eq_none member listed)
  | some value =>
    rw [member] at accepted
    obtain ⟨sent, string, -⟩ := Option.map_eq_some_iff.1 accepted
    exact leftAlone_of_stringMember (member ▸ string)

/-! ## Schemas -/

theorem leftAlone_of_completeSchema {record : CompletedRecord}
    (accepted : completeSchema formats
      (memberOf (fun _ => parseTagValue formats) leaves) = some record) :
    ∀ leaf ∈ leaves,
      leaf.1 ∈ ["paygov_tracking_id", "agency_tracking_id", "payment_type"] →
        IsLeftAlone formats leaf.2 := by
  simp only [completeSchema, bind, Option.bind_eq_some_iff] at accepted
  obtain ⟨paygov, paygovRead, agency, agencyRead, _, -, _, -, _, -, _, -,
    type, typeRead, -⟩ := accepted
  intro leaf listed named
  simp only [List.mem_cons, List.not_mem_nil, or_false] at named
  rcases named with named | named | named
  · exact leftAlone_of_stringMember paygovRead leaf listed named
  · exact leftAlone_of_stringMember agencyRead leaf listed named
  · exact leftAlone_of_stringMember typeRead leaf listed named

theorem leftAlone_of_detailsSchema {record : DetailsRecord}
    (accepted : detailsSchema formats
      (memberOf (fun _ => parseTagValue formats) leaves) = some record) :
    ∀ leaf ∈ leaves,
      leaf.1 ∈ ["paygov_tracking_id", "agency_tracking_id", "payment_type"] →
        IsLeftAlone formats leaf.2 := by
  simp only [detailsSchema, bind, Option.bind_eq_some_iff] at accepted
  obtain ⟨paygov, paygovRead, _, -, agency, agencyRead, _, -, type, typeRead,
    -⟩ := accepted
  intro leaf listed named
  simp only [List.mem_cons, List.not_mem_nil, or_false] at named
  rcases named with named | named | named
  · exact leftAlone_of_stringMember paygovRead leaf listed named
  · exact leftAlone_of_optionalMember agencyRead leaf listed named
  · exact leftAlone_of_optionalMember typeRead leaf listed named

theorem leftAlone_of_wrapperSchema {transaction : List Leaves}
    {record : DetailsRecord}
    (accepted : wrapperSchema formats (fun _ => parseTagValue formats)
      transaction = some record) :
    ∀ leaves ∈ transaction, ∀ leaf ∈ leaves,
      leaf.1 ∈ ["paygov_tracking_id", "agency_tracking_id", "payment_type"] →
        IsLeftAlone formats leaf.2 := by
  match transaction with
  | [leaves] =>
    intro leaves' listed
    rw [List.mem_singleton.1 listed]
    exact leftAlone_of_detailsSchema accepted
  | [] => cases accepted
  | _ :: _ :: _ => cases accepted

theorem mem_of_mapM {α β : Type} {f : α → Option β} {items : List α}
    {results : List β} (all : items.mapM f = some results) :
    ∀ item ∈ items, ∃ result, f item = some result := by
  induction items generalizing results with
  | nil => simp
  | cons item rest ih =>
    simp only [List.mapM_cons, bind, Option.bind_eq_some_iff] at all
    obtain ⟨result, first, others, remaining, -⟩ := all
    intro other member
    rcases List.mem_cons.1 member with same | member
    · exact ⟨result, same ▸ first⟩
    · exact ih remaining other member

theorem mapM_congr {α β : Type} {f g : α → Option β} {items : List α}
    (same : ∀ item ∈ items, f item = g item) :
    items.mapM f = items.mapM g := by
  induction items with
  | nil => rfl
  | cons item rest ih =>
    rw [List.forall_mem_cons] at same
    rw [List.mapM_cons, List.mapM_cons, same.1, ih same.2]

/-! ## Responses -/

variable {response : SoapResponse} {decoded : DecodedResponse}

/-- An accepted response has no converted string field. -/
theorem stringsLeftAlone_of_decodeResponse
    (accepted : decodeResponse formats response = some decoded) :
    StringsLeftAlone formats response := by
  cases response with
  | startOnlineCollection leaves =>
    obtain ⟨token, string, -⟩ := Option.map_eq_some_iff.1 accepted
    intro own member leaf listed named
    rw [List.mem_singleton.1 member] at listed
    exact leftAlone_of_stringMember string leaf listed
      (List.mem_singleton.1 named)
  | completeOnlineCollectionWithDetails leaves =>
    obtain ⟨record, schema, -⟩ := Option.map_eq_some_iff.1 accepted
    intro own member leaf listed named
    rw [List.mem_singleton.1 member] at listed
    exact leftAlone_of_completeSchema schema leaf listed named
  | getDetails transactions =>
    obtain ⟨record, first, -⟩ := Option.map_eq_some_iff.1 accepted
    obtain ⟨records, all, -⟩ := Option.bind_eq_some_iff.1 first
    intro own member leaf listed named
    obtain ⟨transaction, present, within⟩ := List.mem_flatten.1 member
    obtain ⟨record, wrapper⟩ := mem_of_mapM all transaction present
    exact leftAlone_of_wrapperSchema wrapper own within leaf listed named

/-- A response without a converted string field is decoded as it was sent. -/
theorem decodeResponse_of_stringsLeftAlone
    (kept : StringsLeftAlone formats response) :
    decodeResponse formats response =
      decodeWith formats (asSent formats response) response := by
  have same : ∀ leaves ∈ elements response,
      memberOf (fun _ => parseTagValue formats) leaves =
        memberOf (asSent formats response) leaves := by
    intro leaves element
    funext name
    apply memberOf_congr
    intro leaf listed named
    unfold asSent
    split
    · rename_i string
      exact parseTagValue_of_leftAlone
        (kept leaves element leaf listed (named ▸ string))
    · rfl
  cases response with
  | startOnlineCollection leaves =>
    simp only [decodeResponse, decodeWith]
    rw [same leaves List.mem_cons_self]
  | completeOnlineCollectionWithDetails leaves =>
    simp only [decodeResponse, decodeWith]
    rw [same leaves List.mem_cons_self]
  | getDetails transactions =>
    simp only [decodeResponse, decodeWith]
    rw [mapM_congr]
    intro transaction present
    match transaction with
    | [leaves] =>
      have element : leaves ∈ transactions.flatten :=
        List.mem_flatten.2 ⟨[leaves], present, List.mem_cons_self⟩
      simp only [wrapperSchema]
      rw [same leaves element]
    | [] => rfl
    | _ :: _ :: _ => rfl

/-- A response that is well formed when its string fields are taken as they were
sent is decoded so exactly where none of them is converted; otherwise the schema
rejects it. -/
theorem decoding_keeps_strings_iff
    (wellFormed : decodeWith formats (asSent formats response) response =
      some decoded) :
    (decodeResponse formats response = some decoded ↔
      StringsLeftAlone formats response) ∧
    (¬ StringsLeftAlone formats response →
      responseText formats response = .schemaViolation) := by
  refine ⟨⟨stringsLeftAlone_of_decodeResponse, fun kept => ?_⟩,
    fun converted => ?_⟩
  · rw [decodeResponse_of_stringsLeftAlone kept, wellFormed]
  · cases outcome : decodeResponse formats response with
    | none => simp [responseText, outcome]
    | some accepted =>
      exact absurd (stringsLeftAlone_of_decodeResponse outcome) converted

/-! ## Samples -/

/-- Formats that know whole numbers and the texts of the samples. -/
def sampleXmlFormats : XmlFormats where
  number text :=
    if text.toList.all Char.isDigit then
      some (text.toList.foldl
        (fun value digit => 10 * value + (digit.toNat - '0'.toNat)) 0 : Nat)
    else [("60.00", 60)].lookup text
  localDateTime text := text = "2026-04-21T15:04:55"
  date text := text = "2026-04-21"

/-- A successful completion with the given tracking id. -/
def sampleCompletion (paygov_tracking_id : String) : SoapResponse :=
  .completeOnlineCollectionWithDetails [
    ("paygov_tracking_id", paygov_tracking_id),
    ("agency_tracking_id", "f3a91c"),
    ("transaction_amount", "60.00"),
    ("transaction_date", "2026-04-21T15:04:55"),
    ("payment_date", "2026-04-21"),
    ("transaction_status", "Success"),
    ("payment_type", "PLASTIC_CARD")]

/-- What a sample says. -/
def sampleCompletedRecord (paygov_tracking_id : String) : CompletedRecord where
  paygov_tracking_id
  agency_tracking_id := "f3a91c"
  transaction_amount := 60
  transaction_date := "2026-04-21T15:04:55"
  payment_date := "2026-04-21"
  transaction_status := .Success
  payment_type := "PLASTIC_CARD"

theorem decoding_keeps_strings_iff_sample :
    decodeResponse sampleXmlFormats (sampleCompletion "3FOGSFO0") =
      some (.completeOnlineCollectionWithDetails
        (sampleCompletedRecord "3FOGSFO0")) ↔
    StringsLeftAlone sampleXmlFormats (sampleCompletion "3FOGSFO0") :=
  (decoding_keeps_strings_iff (by decide)).1

/-- An id of digits is well formed, and its response is rejected. -/
theorem digits_rejected :
    decodeWith sampleXmlFormats
        (asSent sampleXmlFormats (sampleCompletion "12345678"))
        (sampleCompletion "12345678") =
      some (.completeOnlineCollectionWithDetails
        (sampleCompletedRecord "12345678")) ∧
    responseText sampleXmlFormats (sampleCompletion "12345678") =
      .schemaViolation := by
  decide

end PaymentPortal.Guarantees
