import Curriculum.Form.Basic
import Curriculum.Message

/-!
# Records of messages

How severities, locations and messages are read from and written as values. A
message that was read counts as one of authoring.
-/

namespace Curriculum

open Schema Form

/-- Severities are written as their words. -/
def Severity.read : Reader Severity := Reader.oneOf Severity.ofLabel?

/-- The word of a severity. -/
def Severity.write (s : Severity) : Value := .text s.label

/-- Any part of a location may be left out; the number of a level is at least one. -/
def Location.read : Reader Location := Reader.record fun ms =>
  Location.mk
    <$> optional "game" Reader.text ms
    <*> optional "world" Reader.text ms
    <*> optional "level" Reader.positive ms

/-- The record of a location. -/
def Location.write (l : Location) : Value := record [
  ("game", ofText? l.game), ("world", ofText? l.world), ("level", ofOption .int l.level)]

/-- A message has a severity and a text; without a location it is about no place in particular. -/
def Message.read : Reader Message := Reader.record fun ms =>
  (fun severity text location => Message.mk severity text location .authoring)
    <$> required "severity" Severity.read ms
    <*> required "text" Reader.text ms
    <*> defaulted "location" Location.read .nowhere ms

/-- The record of a message. -/
def Message.write (m : Message) : Value := record [
  ("severity", m.severity.write), ("text", .text m.text), ("location", m.location.write)]

end Curriculum
