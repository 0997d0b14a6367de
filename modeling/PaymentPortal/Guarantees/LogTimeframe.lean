import PaymentPortal.Guarantees.CourtDays
import PaymentPortal.Model.TransactionLogSchema

/-!
# The timeframe of the transaction log

A timeframe that is supplied is either rejected or resolved to the window its
texts denote, except where one of the two texts is empty: the check for a
half-supplied pair takes it for a value, the transformation does not.
-/

namespace PaymentPortal.Guarantees

open PaymentPortal.Calendar PaymentPortal.Model

/-- What is relied on of the ISO format: after a year of four digits comes a
dash. -/
structure DashedDates (formats : QueryFormats) : Prop where
  dash : ∀ text, formats.isoDateTime text = true →
    text.toList[4]? = some '-'

/-- What a text denotes on a side of the timeframe: a real calendar date the
start or the end of its court day, an ISO timestamp its instant. -/
def Denotes (court : Zone) (formats : QueryFormats) (side : TimeframeSide)
    (text : String) (instant : Int) : Prop :=
  (∃ date, monthDayYear? text = some date ∧ date.Valid ∧
      side.bound (courtDayBoundsForDate court date) = instant) ∨
    (monthDayYear? text = none ∧ formats.isoDateTime text = true ∧
      formats.dateTime text = some instant)

/-- The query is rejected, or the log is read over the window that its texts
denote, whenever it is asked for. -/
def ResolvesFaithfully (court : Zone) (formats : QueryFormats)
    (query : QueryObject) : Prop :=
  ∀ refined, parseTransactionLogQuery court formats query = .ok refined →
    ∃ fromText toText from_ to_,
      (query.from_ = some (.text fromText) ∧
        query.to_ = some (.text toText)) ∧
      (Denotes court formats .from_ fromText from_ ∧
        Denotes court formats .to_ toText to_) ∧
      from_ < to_ ∧ ∀ now, (refined.resolve court now).from_ = from_ ∧
        (refined.resolve court now).to_ = to_

/-- Both keys are texts, one of them empty, and nothing else is wrong with the
query. -/
def HasEmptyBound (formats : QueryFormats) (query : QueryObject) : Prop :=
  ∃ fromText toText fields,
    (query.from_ = some (.text fromText) ∧ query.to_ = some (.text toText)) ∧
    (fromText = "" ∨ toText = "") ∧
    queryFields formats query = .ok fields ∧
    (fields.metadataKey = none ↔ fields.metadataValue = none) ∧
    (fields.export_ = true ∨ fields.pageSize ≤ TRANSACTION_LOG_MAX_PAGE_SIZE)

variable {court : Zone} {formats : QueryFormats}

/-! ## The stages -/

theorem withIssues_eq_ok {α : Type} {issues : α → List Issue} {value : α}
    {result : α} :
    withIssues issues value = .ok result ↔
      issues value = [] ∧ value = result := by
  unfold withIssues
  cases issues value <;> simp

/-- A query is accepted when every stage accepts it. -/
theorem parseTransactionLogQuery_eq_ok {query : QueryObject}
    {refined : RefinedQuery} :
    parseTransactionLogQuery court formats query = .ok refined ↔
      ∃ fields, queryFields formats query = .ok fields ∧
        pairIssues fields = [] ∧
        transformQuery court formats fields = .ok refined ∧
        pageSizeIssues refined = [] := by
  simp only [parseTransactionLogQuery, Validated.bind_eq_ok, withIssues_eq_ok]
  constructor
  · rintro ⟨fields, accepted, _, ⟨paired, rfl⟩, _, transformed, sized, rfl⟩
    exact ⟨fields, accepted, paired, transformed, sized⟩
  · rintro ⟨fields, accepted, paired, transformed, sized⟩
    exact ⟨fields, accepted, fields, ⟨paired, rfl⟩, refined, transformed,
      sized, rfl⟩

/-- The two texts are taken over as they are. -/
theorem stringFields_of_accepted {query : QueryObject} {fields : QueryFields}
    (accepted : queryFields formats query = .ok fields) :
    stringField "from" query.from_ = .ok fields.from_ ∧
      stringField "to" query.to_ = .ok fields.to_ := by
  unfold queryFields at accepted
  -- The fields behind the two are taken off one by one.
  iterate 13
    rw [Validated.andField_eq_ok] at accepted
    obtain ⟨_, _, accepted, _, rfl⟩ := accepted
  simp only [Validated.andField_eq_ok, Except.ok.injEq] at accepted
  obtain ⟨_, to_, ⟨_, from_, rfl, isFrom, rfl⟩, isTo, rfl⟩ := accepted
  exact ⟨isFrom, isTo⟩

theorem stringField_eq_ok {name : String} {value : Option QueryValue}
    {text : Option String} :
    stringField name value = .ok text ↔ value = text.map .text := by
  cases value with
  | none => cases text <;> simp [stringField]
  | some value => cases value <;> cases text <;> simp [stringField]

/-! ## The texts -/

/-- An ISO timestamp has no MM/DD/YYYY form. -/
theorem monthDayYear_of_dash {text : String}
    (dash : text.toList[4]? = some '-') : monthDayYear? text = none := by
  unfold monthDayYear?
  split
  · rename_i characters
    rw [characters] at dash
    have fifth := Option.some.inj dash
    simp [fifth, Char.isDigit]
  · rfl

theorem parseTransactionLogDate_denotes (dashed : DashedDates formats)
    {text : String} {side : TimeframeSide} {parsed : ParsedDate} {instant : Int}
    (found : parseTransactionLogDate court formats text side = some parsed)
    (valid : parsed.date = some instant) :
    Denotes court formats side text instant := by
  simp only [parseTransactionLogDate, courtDayBoundsForDateString] at found
  cases dated : parseMonthDayYearDate text with
  | some date =>
      obtain ⟨matched, real⟩ := parseMonthDayYearDate_eq_some dated
      simp only [dated, Option.map_some, Option.some.injEq] at found
      subst found
      exact .inl ⟨date, matched, real, Option.some.inj valid⟩
  | none =>
      simp only [dated, Option.map_none] at found
      split at found
      · rename_i accepted
        cases found
        exact .inr ⟨monthDayYear_of_dash (dashed.dash text accepted),
          accepted, valid⟩
      · cases found

/-- An empty text denotes nothing. -/
theorem not_denotes_empty (dashed : DashedDates formats)
    {side : TimeframeSide} {instant : Int} :
    ¬Denotes court formats side "" instant := by
  rintro (⟨date, matched, -⟩ | ⟨-, accepted, -⟩)
  · simp [monthDayYear?] at matched
  · simpa using dashed.dash "" accepted

/-- With both texts there, the transformation sets the window they denote. -/
theorem transformQuery_denotes (dashed : DashedDates formats)
    {fields : QueryFields} {refined : RefinedQuery} {fromText toText : String}
    (fromGiven : fields.from_ = some fromText)
    (toGiven : fields.to_ = some toText)
    (nonempty : fromText ≠ "" ∧ toText ≠ "")
    (transformed : transformQuery court formats fields = .ok refined) :
    ∃ from_ to_, (Denotes court formats .from_ fromText from_ ∧
        Denotes court formats .to_ toText to_) ∧
      from_ < to_ ∧ refined.from_ = some from_ ∧ refined.to_ = some to_ := by
  have present : (isFalsy fields.from_ || isFalsy fields.to_) = false := by
    simp [isFalsy, fromGiven, toGiven, nonempty]
  rw [transformQuery, present] at transformed
  simp only [fromGiven, toGiven, Option.getD_some, Bool.false_eq_true,
    if_false] at transformed
  split at transformed
  · rename_i parsedFrom parsedTo foundFrom foundTo
    split at transformed
    · cases transformed
    · rename_i earlier
      cases transformed
      cases fromDate : parsedFrom.date with
      | none => simp [isEarlier, fromDate] at earlier
      | some from_ =>
          cases toDate : parsedTo.date with
          | none => simp [isEarlier, fromDate, toDate] at earlier
          | some to_ =>
              refine ⟨from_, to_, ⟨?_, ?_⟩, ?_, rfl, rfl⟩
              · exact parseTransactionLogDate_denotes dashed foundFrom fromDate
              · exact parseTransactionLogDate_denotes dashed foundTo toDate
              · simpa [isEarlier, fromDate, toDate] using earlier
  · cases transformed

/-- With an empty text, the transformation leaves the timeframe open. -/
theorem transformQuery_empty {fields : QueryFields} {fromText toText : String}
    (fromGiven : fields.from_ = some fromText)
    (toGiven : fields.to_ = some toText)
    (empty : fromText = "" ∨ toText = "") :
    transformQuery court formats fields = .ok fields.refined := by
  have absent : (isFalsy fields.from_ || isFalsy fields.to_) = true := by
    simpa [isFalsy, fromGiven, toGiven] using empty
  rw [transformQuery, absent, if_pos rfl]

/-! ## The whole query -/

/-- A query with the keys of the timeframe is accepted only with two texts. -/
theorem texts_of_accepted {query : QueryObject} {fields : QueryFields}
    (present : query.from_ ≠ none ∨ query.to_ ≠ none)
    (accepted : queryFields formats query = .ok fields)
    (paired : pairIssues fields = []) :
    ∃ fromText toText, (query.from_ = some (.text fromText) ∧
        query.to_ = some (.text toText)) ∧
      fields.from_ = some fromText ∧ fields.to_ = some toText := by
  obtain ⟨from_, to_⟩ := stringFields_of_accepted accepted
  rw [stringField_eq_ok] at from_ to_
  have bothOrNone : fields.from_.isNone = fields.to_.isNone := by
    by_contra differ
    simp [pairIssues, differ] at paired
  cases fromGiven : fields.from_ with
  | none =>
      cases toGiven : fields.to_ with
      | none => simp [from_, to_, fromGiven, toGiven] at present
      | some toText => simp [fromGiven, toGiven] at bothOrNone
  | some fromText =>
      cases toGiven : fields.to_ with
      | none => simp [fromGiven, toGiven] at bothOrNone
      | some toText =>
          rw [fromGiven] at from_
          rw [toGiven] at to_
          exact ⟨fromText, toText, ⟨from_, to_⟩, rfl, rfl⟩


theorem pairIssues_eq_nil {fields : QueryFields} :
    pairIssues fields = [] ↔
      (fields.metadataKey = none ↔ fields.metadataValue = none) ∧
        (fields.from_ = none ↔ fields.to_ = none) := by
  unfold pairIssues
  cases fields.metadataKey <;> cases fields.metadataValue <;>
    cases fields.from_ <;> cases fields.to_ <;> simp

theorem pageSizeIssues_eq_nil {refined : RefinedQuery} :
    pageSizeIssues refined = [] ↔ refined.export_ = true ∨
      refined.pageSize ≤ TRANSACTION_LOG_MAX_PAGE_SIZE := by
  unfold pageSizeIssues
  cases refined.export_ <;> simp

/-- A supplied timeframe is handled faithfully exactly when neither text is
empty in a query that is otherwise in order. -/
theorem resolvesFaithfully_iff (dashed : DashedDates formats)
    {query : QueryObject} (present : query.from_ ≠ none ∨ query.to_ ≠ none) :
    ResolvesFaithfully court formats query ↔ ¬HasEmptyBound formats query := by
  constructor
  · rintro faithful ⟨fromText, toText, fields, ⟨fromKey, toKey⟩, empty,
      accepted, metadata, sized⟩
    obtain ⟨from_, to_⟩ := stringFields_of_accepted accepted
    rw [stringField_eq_ok] at from_ to_
    have fromGiven : fields.from_ = some fromText := by
      cases given : fields.from_ <;> simp_all
    have toGiven : fields.to_ = some toText := by
      cases given : fields.to_ <;> simp_all
    have paired : pairIssues fields = [] :=
      pairIssues_eq_nil.mpr ⟨metadata, by simp [fromGiven, toGiven]⟩
    have parsed : parseTransactionLogQuery court formats query =
        .ok fields.refined :=
      parseTransactionLogQuery_eq_ok.mpr ⟨fields, accepted, paired,
        transformQuery_empty fromGiven toGiven empty,
        pageSizeIssues_eq_nil.mpr sized⟩
    obtain ⟨fromText', toText', from', to', ⟨fromKey', toKey'⟩,
      ⟨fromDenotes, toDenotes⟩, -⟩ := faithful _ parsed
    rw [fromKey] at fromKey'
    rw [toKey] at toKey'
    cases fromKey'
    cases toKey'
    rcases empty with rfl | rfl
    · exact not_denotes_empty dashed fromDenotes
    · exact not_denotes_empty dashed toDenotes
  · intro bounded refined accepted
    obtain ⟨fields, fieldsAccepted, paired, transformed, sized⟩ :=
      parseTransactionLogQuery_eq_ok.mp accepted
    obtain ⟨fromText, toText, keys, fromGiven, toGiven⟩ :=
      texts_of_accepted present fieldsAccepted paired
    have nonempty : fromText ≠ "" ∧ toText ≠ "" := by
      by_contra someEmpty
      have empty : fromText = "" ∨ toText = "" := by tauto
      rw [transformQuery_empty fromGiven toGiven empty] at transformed
      cases transformed
      exact bounded ⟨fromText, toText, fields, keys, empty, fieldsAccepted,
        (pairIssues_eq_nil.mp paired).1, pageSizeIssues_eq_nil.mp sized⟩
    obtain ⟨from_, to_, denoted, ordered, fromSet, toSet⟩ :=
      transformQuery_denotes dashed fromGiven toGiven nonempty transformed
    refine ⟨fromText, toText, from_, to_, keys, denoted, ordered,
      fun now => ?_⟩
    simp [RefinedQuery.resolve, RefinedQuery.timeframe, fromSet, toSet]

/-- Two dates enclose the court days between them, both included. -/
theorem dates_enclose (follows : FollowsNewYork court)
    {first last : CourtDayParts} (validFirst : first.Valid)
    (validLast : last.Valid) (firstSince : 2007 ≤ first.year)
    (lastSince : 2007 ≤ last.year) (instant : Int) :
    ((courtDayBoundsForDate court first).start ≤ instant ∧
        instant < (courtDayBoundsForDate court last).end_) ↔
      first.toDay ≤ (court.date instant).toDay ∧
        (court.date instant).toDay ≤ last.toDay := by
  have from2007 := since_of_valid validFirst firstSince
  have lastFrom2007 := since_of_valid validLast lastSince
  rw [courtDayBoundsForDate_eq follows validFirst firstSince,
    courtDayBoundsForDate_eq follows validLast lastSince, Zone.toDay_date,
    (follows.passes_midnight from2007).between
      (follows.passes_midnight (by omega)) instant]
  unfold msPerDay
  omega

/-- Formats that know one timestamp and no numbers. -/
def sampleFormats : QueryFormats where
  number := fun _ => none
  isoDateTime := fun text => text == "2026-08-03T04:00:00.000Z"
  dateTime := fun text =>
    if text = "2026-08-03T04:00:00.000Z" then some 1785729600000 else none

theorem sampleFormats_dashed : DashedDates sampleFormats where
  dash := fun text accepted => by
    have same : text = "2026-08-03T04:00:00.000Z" := by
      simpa [sampleFormats] using accepted
    rw [same]
    decide

end PaymentPortal.Guarantees
