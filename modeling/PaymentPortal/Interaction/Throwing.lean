import PaymentPortal.Interaction.Conformance

/-!
# Conformance of programs that throw

`ExceptT ε (Program Op Reply)` is the monad of callers that may throw.
`Performs` is conformance with one postcondition for returned values and one
for thrown errors; its rules follow the control flow of such callers, so that
a function is verified from the specifications of the functions it calls.

A solitary discipline is that of callers that await one operation at a time;
its phases change by the steps of the caller only, which simplifies the rules.
-/

namespace PaymentPortal.Interaction

variable {Op : Type} {Reply : Op → Type} {Phase α β ε : Type}

/-- How a throwing program may end in a phase. -/
def Ending (returns : Phase → α → Prop) (throws : Phase → ε → Prop)
    (phase : Phase) : Except ε α → Prop
  | .ok value => returns phase value
  | .error error => throws phase error

/-- The task conforms, and what it returns or throws is as stated. -/
def Performs (discipline : Discipline Op Reply Phase)
    (returns : Phase → α → Prop) (throws : Phase → ε → Prop)
    (task : ExceptT ε (Program Op Reply) α) (phase : Phase) : Prop :=
  Program.Conforms discipline (Ending returns throws) task.run phase

namespace Performs

variable {discipline : Discipline Op Reply Phase}
variable {returns : Phase → α → Prop} {throws : Phase → ε → Prop}
variable {phase : Phase}

theorem pure {value : α}
    (returned : ∀ later, discipline.grows phase later → returns later value) :
    Performs discipline returns throws
      (Pure.pure value : ExceptT ε (Program Op Reply) α) phase :=
  returned

theorem throw {error : ε}
    (thrown : ∀ later, discipline.grows phase later → throws later error) :
    Performs discipline returns throws
      (MonadExcept.throw error : ExceptT ε (Program Op Reply) α) phase :=
  thrown

/-- A step that has been computed: its value is returned, its error thrown. -/
theorem computed {step : Except ε α}
    (ends : ∀ later, discipline.grows phase later →
      Ending returns throws later step) :
    Performs discipline returns throws (ExceptT.mk (.done step)) phase :=
  ends

/-- One operation whose reply is converted into a value or an error. -/
theorem operation {op : Op} {convert : Reply op → Except ε α}
    (permitted : ∀ current, discipline.grows phase current → ∀ reply,
      ∃ after, discipline.step current op reply after ∧
        ∀ later, discipline.grows after later →
          Ending returns throws later (convert reply)) :
    Performs discipline returns throws
      (ExceptT.mk (.perform op fun reply => .done (convert reply))) phase := by
  intro current grown reply
  obtain ⟨after, allowed, settled⟩ := permitted current grown reply
  exact ⟨after, allowed, settled⟩

theorem mono {weakReturns : Phase → α → Prop} {weakThrows : Phase → ε → Prop}
    {task : ExceptT ε (Program Op Reply) α}
    (performs : Performs discipline returns throws task phase)
    (onReturn : ∀ later value, returns later value → weakReturns later value)
    (onThrow : ∀ later error, throws later error → weakThrows later error) :
    Performs discipline weakReturns weakThrows task phase := by
  apply Program.Conforms.mono performs
  rintro later (error | value) ended
  · exact onThrow later error ended
  · exact onReturn later value ended

/-- Only what is thrown is weakened. -/
theorem monoThrows {weakThrows : Phase → ε → Prop}
    {task : ExceptT ε (Program Op Reply) α}
    (performs : Performs discipline returns throws task phase)
    (onThrow : ∀ later error, throws later error → weakThrows later error) :
    Performs discipline returns weakThrows task phase :=
  performs.mono (fun _ _ returned => returned) onThrow

theorem bind (middle : Phase → β → Prop)
    {task : ExceptT ε (Program Op Reply) β}
    {next : β → ExceptT ε (Program Op Reply) α}
    (first : Performs discipline middle throws task phase)
    (rest : ∀ later value, middle later value →
      Performs discipline returns throws (next value) later)
    (thrown : ∀ later current error, throws later error →
      discipline.grows later current → throws current error) :
    Performs discipline returns throws (task >>= next) phase := by
  apply Program.Conforms.bind _ first
  rintro later (error | value) ended
  · exact fun current grown => thrown later current error ended grown
  · exact rest later value ended

theorem tryCatch (failing : Phase → ε → Prop)
    {task : ExceptT ε (Program Op Reply) α}
    {handler : ε → ExceptT ε (Program Op Reply) α}
    (first : Performs discipline returns failing task phase)
    (handled : ∀ later error, failing later error →
      Performs discipline returns throws (handler error) later)
    (returned : ∀ later current value, returns later value →
      discipline.grows later current → returns current value) :
    Performs discipline returns throws
      (MonadExcept.tryCatch task handler) phase := by
  apply Program.Conforms.bind _ first
  rintro later (error | value) ended
  · exact handled later error ended
  · exact fun current grown => returned later current value ended grown

theorem map {middle : Phase → β → Prop}
    {task : ExceptT ε (Program Op Reply) β} {function : β → α}
    (first : Performs discipline middle throws task phase)
    (returned : ∀ later current value, middle later value →
      discipline.grows later current → returns current (function value))
    (thrown : ∀ later current error, throws later error →
      discipline.grows later current → throws current error) :
    Performs discipline returns throws (function <$> task) phase := by
  apply Program.Conforms.bind _ first
  rintro later (error | value) ended
  · exact fun current grown => thrown later current error ended grown
  · exact fun current grown => returned later current value ended grown

end Performs

/-- The discipline of a caller that awaits one operation at a time. -/
def Discipline.solitary
    (step : Phase → (op : Op) → Reply op → Phase → Prop) :
    Discipline Op Reply Phase where
  step := step
  grows := Eq
  grows_refl := Eq.refl
  grows_trans := Eq.trans

namespace Solitary

variable {step : Phase → (op : Op) → Reply op → Phase → Prop}
variable {returns : Phase → α → Prop} {throws : Phase → ε → Prop}
variable {phase : Phase}

theorem pure {value : α} (returned : returns phase value) :
    Performs (.solitary step) returns throws
      (Pure.pure value : ExceptT ε (Program Op Reply) α) phase :=
  Performs.pure fun _ same => same ▸ returned

theorem throw {error : ε} (thrown : throws phase error) :
    Performs (.solitary step) returns throws
      (MonadExcept.throw error : ExceptT ε (Program Op Reply) α) phase :=
  Performs.throw fun _ same => same ▸ thrown

theorem computed {result : Except ε α}
    (ends : Ending returns throws phase result) :
    Performs (.solitary step) returns throws (ExceptT.mk (.done result))
      phase :=
  Performs.computed fun _ same => same ▸ ends

theorem operation {op : Op} {convert : Reply op → Except ε α}
    (permitted : ∀ reply, ∃ after, step phase op reply after ∧
      Ending returns throws after (convert reply)) :
    Performs (.solitary step) returns throws
      (ExceptT.mk (.perform op fun reply => .done (convert reply))) phase := by
  apply Performs.operation
  rintro _ rfl reply
  obtain ⟨after, allowed, ends⟩ := permitted reply
  exact ⟨after, allowed, fun _ same => same ▸ ends⟩

theorem bind (middle : Phase → β → Prop)
    {task : ExceptT ε (Program Op Reply) β}
    {next : β → ExceptT ε (Program Op Reply) α}
    (first : Performs (.solitary step) middle throws task phase)
    (rest : ∀ later value, middle later value →
      Performs (.solitary step) returns throws (next value) later) :
    Performs (.solitary step) returns throws (task >>= next) phase :=
  Performs.bind middle first rest fun _ _ _ thrown same => same ▸ thrown

theorem tryCatch (failing : Phase → ε → Prop)
    {task : ExceptT ε (Program Op Reply) α}
    {handler : ε → ExceptT ε (Program Op Reply) α}
    (first : Performs (.solitary step) returns failing task phase)
    (handled : ∀ later error, failing later error →
      Performs (.solitary step) returns throws (handler error) later) :
    Performs (.solitary step) returns throws
      (MonadExcept.tryCatch task handler) phase :=
  Performs.tryCatch failing first handled
    fun _ _ _ returned same => same ▸ returned

theorem map {middle : Phase → β → Prop}
    {task : ExceptT ε (Program Op Reply) β} {function : β → α}
    (first : Performs (.solitary step) middle throws task phase)
    (returned : ∀ later value, middle later value →
      returns later (function value)) :
    Performs (.solitary step) returns throws (function <$> task) phase :=
  Performs.map first
    (fun later _ value held same => same ▸ returned later value held)
    fun _ _ _ thrown same => same ▸ thrown

end Solitary

end PaymentPortal.Interaction
