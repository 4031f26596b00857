import FindQuery.Proofs.Time.Reference

/-!
# References on clocks with different offsets

A relative reference is resolved on the clock alone: the offset of the clock from universal
time enters when the moment that was found is told in nanoseconds since the epoch, and
nowhere before.  The epoch itself and a timestamp with an offset of its own do not depend on
the present at all.
-/

namespace FindQuery.Time

open FindQuery.Number
open FindQuery.Text

/-- Whether a reference names the same bounds at every present. -/
def Reference.IsAbsolute : Reference → Prop
  | .forever => True
  | .stamp text => ∃ named, Timestamp.zoned? (trim text.toList) = some named
  | _ => False

/-- The layout with an offset is tried first, so nothing else reads its texts. -/
theorem ofText?_of_zoned?
    {text : List Char} {named : Instant} (zoned : Timestamp.zoned? (trim text) = some named) :
    Timestamp.ofText? text = some (.instant named) := by
  simp only [Timestamp.ofText?, zoned, Option.map_some, Option.some_or]

/-- Only the layout with an offset says which instant is meant. -/
theorem exists_zoned?_of_ofText?
    {text : List Char} {named : Instant} (said : Timestamp.ofText? text = some (.instant named)) :
    ∃ found, Timestamp.zoned? (trim text) = some found := by
  cases zoned : Timestamp.zoned? (trim text) with
  | some found => exact ⟨found, rfl⟩
  | none => simp [Timestamp.ofText?, zoned] at said

/-- A timestamp without an offset of its own is a moment on the clock of the present. -/
theorem exists_clock_of_resolve
    {timestamp : Timestamp} (relative : ∀ named, timestamp ≠ .instant named)
    (now : Moment) (bound : Bound) :
    ∃ shown, ∀ offset, timestamp.resolve ⟨now, offset⟩ bound = ⟨shown, offset⟩ := by
  cases timestamp with
  | instant named => exact absurd rfl (relative named)
  | moment clock => exact ⟨clock, fun offset => rfl⟩
  | date day => exact ⟨boundOf (Moment.midnight day) (.days 1) bound, fun offset => rfl⟩
  | time timeOfDay => exact ⟨timeOfDay.onDay now.day, fun offset => rfl⟩

/--
What a relative reference names is found on the clock; the offset of the clock is used only to
tell it in nanoseconds since the epoch.
-/
theorem exists_clock_of_resolve?
    {reference : Reference} (relative : ¬ reference.IsAbsolute) (now : Moment) (bound : Bound) :
    ∃ shown : Option Moment, ∀ offset,
      reference.resolve? ⟨now, offset⟩ bound =
        shown.bind fun moment => Instant.epochNanos? ⟨moment, offset⟩ := by
  cases reference with
  | forever => exact absurd trivial relative
  | wholeDay daysBack => exact ⟨some (dayBack now daysBack bound), fun offset => rfl⟩
  | back unit count => exact ⟨unitsBack? now unit count bound, fun offset => rfl⟩
  | stamp text =>
      cases said : Timestamp.ofText? text.toList with
      | none =>
          refine ⟨none, fun offset => ?_⟩
          rw [Reference.resolve?, said]
          rfl
      | some timestamp =>
          have onClock : ∀ named, timestamp ≠ .instant named := by
            rintro named rfl
            exact relative (exists_zoned?_of_ofText? said)
          rcases exists_clock_of_resolve onClock now bound with ⟨shown, resolved⟩
          refine ⟨some shown, fun offset => ?_⟩
          simp only [Reference.resolve?, said, Option.bind_some, resolved]

/-- On clocks that show the same moment, a relative reference differs by their offsets. -/
theorem resolve?_sub_resolve?
    {reference : Reference} (relative : ¬ reference.IsAbsolute)
    {now : Moment} {offset otherOffset nanos otherNanos : Int} {bound : Bound}
    (resolved : reference.resolve? ⟨now, offset⟩ bound = some nanos)
    (otherResolved : reference.resolve? ⟨now, otherOffset⟩ bound = some otherNanos) :
    nanos - otherNanos = (otherOffset - offset) * secondNanos := by
  rcases exists_clock_of_resolve? relative now bound with ⟨shown, onClock⟩
  rw [onClock] at resolved otherResolved
  rcases Option.bind_eq_some_iff.1 resolved with ⟨moment, found, told⟩
  rcases Option.bind_eq_some_iff.1 otherResolved with ⟨same, foundAgain, otherTold⟩
  obtain rfl : moment = same := Option.some.inj (found.symm.trans foundAgain)
  rw [eq_of_epochNanos? told, eq_of_epochNanos? otherTold, Int.sub_mul]
  simp only
  omega

/-- An absolute reference does not depend on the present. -/
theorem resolve?_eq_of_isAbsolute
    {reference : Reference} (absolute : reference.IsAbsolute) (now other : Instant)
    (bound : Bound) :
    reference.resolve? now bound = reference.resolve? other bound := by
  cases reference with
  | forever => rfl
  | wholeDay daysBack => cases absolute
  | back unit count => cases absolute
  | stamp text =>
      rcases absolute with ⟨named, zoned⟩
      simp only [Reference.resolve?, ofText?_of_zoned? zoned, Option.bind_some,
        Timestamp.resolve]

end FindQuery.Time
