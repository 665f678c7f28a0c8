import FlatJson.Zone.Basic

/-!
# Moments

A moment is an instant as it is shown in a zone: a wall clock that knows its place in the zone.

* `Zone.show?` shows an instant of universal time in a zone, if its wall clock is on the calendar.
* `Clock.isSameTime` says when two wall clocks, with or without a place, are equal.
-/

namespace FlatJson

/-- The place of a wall clock in a zone. -/
structure Placement where
  /-- The offset of the zone. -/
  offset : UtcOffset
  /-- The wall clock of the zone has shown the same before. -/
  repeated : Bool
  /-- The zone. -/
  zone : Zone

/-- An instant as it is shown in a zone. -/
structure Moment extends Placement where
  /-- The wall clock of the zone. -/
  clock : Clock

/-- The place of a wall clock at an unchanging offset. -/
def Placement.ofOffset (offset : UtcOffset) : Placement := ⟨offset, false, .fixed offset none⟩

/-- An instant of universal time as it is shown in a zone, if its wall clock is on the calendar. -/
def Zone.show? (z : Zone) (utc : Clock) : Option Moment := do
  let clock ← utc.ahead? (z.offsetAt utc)
  some { offset := z.offsetAt utc, repeated := z.repeatsAt utc, zone := z, clock := clock }

namespace Placement

/-- Two places are in the same named zone. -/
def inSameZone (p q : Placement) : Bool :=
  match p.zone, q.zone with
  | .named name _, .named name' _ => name == name'
  | _, _ => false

/-- The wall clock at this place is shown twice. -/
def isAmbiguous (p : Placement) (c : Clock) : Bool :=
  (c.behind? p.offset).any p.zone.ambiguousAt

end Placement

/-- Two wall clocks are equal: in one named zone, or if neither has a place, when they show the
same, whichever time it is; in different zones when they show the same instant and neither of them
is shown twice. -/
def Clock.isSameTime (c : Clock) (p : Option Placement) (c' : Clock) (p' : Option Placement) :
    Bool :=
  match p, p' with
  | none, none => c.micros == c'.micros
  | some p, some p' =>
    if p.inSameZone p' then c.micros == c'.micros
    else !p.isAmbiguous c && !p'.isAmbiguous c' &&
      c.micros - p.offset.micros == c'.micros - p'.offset.micros
  | _, _ => false

end FlatJson
