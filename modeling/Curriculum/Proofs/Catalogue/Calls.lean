import Mathlib.Data.List.Induction
import Curriculum.Form.Catalogue
import Curriculum.Proofs.Catalogue

/-!
# The calls that fill a catalogue

A catalogue is filled call by call: a name is documented, or it is made sure that
it is there. What a call does to its name depends on nothing but the item that the
name has so far (`answer_of_named`), and it leaves all other names alone. So what
many calls leave can be read off their list: of the calls on a name one documents
it, `documentingCall`, and the name has the item of that call, wherever in the list
it stands. One more call keeps this up, `Reflects.call`.

Main statement: `filled_by_calls`. It says for every list of calls which names the
catalogue has afterwards and in which order, which item each of them has, and what
the next call is answered.
-/

namespace Curriculum

open Schema Form

/-- A call on a catalogue. -/
inductive Call where
  /-- Document a name. -/
  | register (kind : Kind) (name : String) (displayName category : Option String)
    (content : String)
  /-- Make sure that a name is there. -/
  | ensure (kind : Kind) (name : String) (description : Option String)

namespace Call

/-- The kind of the name that a call is about. -/
def kind : Call → Kind
  | register kind .. | ensure kind .. => kind

/-- The name that a call is about. -/
def name : Call → String
  | register _ name .. | ensure _ name _ => name

/-- The name that a call is about, with its kind. -/
def key (call : Call) : Kind × String := (call.kind, call.name)

/-- The record of a call. -/
def members : Call → Members
  | register kind name displayName category content => [
    (.text "kind", kind.write), (.text "name", .text name),
    (.text "display_name", ofText? displayName), (.text "category", ofText? category),
    (.text "content", .text content)]
  | ensure kind name description => [
    (.text "kind", kind.write), (.text "name", .text name),
    (.text "template", ofText? description)]

/-- What a call makes of a catalogue and is answered, unless it fails. -/
def answer (call : Call) (c : Catalogue) : Except CallError (Catalogue × Option Remark) :=
  match call with
  | register .. => c.registerRecord call.members
  | ensure .. => c.mentionRecord call.members

/-- Whether a call documents a name, whatever has been said about the name. -/
def isRegister : Call → Bool
  | register .. => true
  | ensure .. => false

/-- Whether a call documents a name by a description, if nothing has been said about the name. -/
def describes : Call → Bool
  | register .. => false
  | ensure _ _ description => description.isSome

/-- The item that is built from a call. It is a placeholder if the call has nothing to document its
name with. -/
def item : Call → Item
  | register kind name displayName category content =>
    { kind := kind, name := name, displayName := textOr displayName name
      category := category.getD (defaultCategory kind name), content := content
      statement := none, placeholder := false }
  | ensure kind name description =>
    { kind := kind, name := name, displayName := name, category := defaultCategory kind name
      content := description.getD "", statement := none, placeholder := description.isNone }

@[simp] theorem kind_item (call : Call) : call.item.kind = call.kind := by cases call <;> rfl

@[simp] theorem name_item (call : Call) : call.item.name = call.name := by cases call <;> rfl

/-! ## One call -/

/-- The item that the name of a call has after the call, if it had this one before. Only a
placeholder gives way, and only to a documentation. -/
def itemAfter (call : Call) : Option Item → Item
  | none => call.item
  | some old => if old.placeholder && call.isRegister then call.item else old

/-- What a call is answered, given the item that its name has. -/
def remark? (call : Call) (old : Option Item) : Option Remark :=
  match call, old with
  | register kind name .., some old =>
    if old.placeholder then none else some (.alreadyDocumented kind name)
  | register .., none => none
  | ensure .., some _ => none
  | ensure kind name (some _), none => some (.documentedByDescription kind name)
  | ensure kind name none, none => some (.undocumented kind name)

end Call

namespace Catalogue

/-- The catalogue after a call. One that fails leaves it as it was. -/
def call (c : Catalogue) (call : Call) : Catalogue :=
  match call.answer c with
  | .ok (c', _) => c'
  | .error _ => c

/-- The catalogue after calls, if there was nothing in it. -/
def afterCalls (calls : List Call) : Catalogue := calls.foldl Catalogue.call .empty

theorem kindOf_write (kind : Kind) : kindOf kind.write = .ok kind := by
  cases kind <;> rfl

/-- The part of a call's record that says how the name is shown. -/
theorem shownName_ofText? (name : String) (displayName : Option String) :
    shownName (.text name) (ofText? displayName) = .exactly (displayName.filter (· ≠ "")) := by
  cases displayName with
  | none => rfl
  | some shown =>
    by_cases h : shown = ""
    · subst h
      rfl
    · have hfilter : (some shown).filter (· ≠ "") = some shown := by simp [Option.filter, h]
      rw [hfilter, shownName, if_neg (by simpa [ofText?, ofOption, Value.isAbsent] using h)]
      rfl

theorem optional_category (kind : Kind) (name : String) (displayName category : Option String)
    (content : String) :
    optional "category" Reader.text (Call.register kind name displayName category content).members
      = .accepted category ⟨1, true⟩ := by
  cases category <;> rfl

/-- What a record says about a name that it documents. -/
theorem readDoc_members {name : String} (kind : Kind) (displayName category : Option String)
    (content : String) :
    readDoc kind (Call.register kind name displayName category content).members
      = if h : name ≠ "" then
          .accepted ⟨kind, ⟨name, h⟩, displayName.filter (· ≠ ""), category, content⟩ ⟨2, true⟩
        else .rejected [⟨["name"], .emptyText⟩] := by
  have hname : part "name" (Call.register kind name displayName category content).members
      = .text name := rfl
  have hshown : part "display_name" (Call.register kind name displayName category content).members
      = ofText? displayName := rfl
  have hcontent : defaulted "content" Reader.text ""
      (Call.register kind name displayName category content).members
      = .accepted content ⟨1, true⟩ := rfl
  rw [readDoc, hname, hshown, hcontent, shownName_ofText?, optional_category]
  by_cases h : name = ""
  · subst h
    rfl
  · rw [dif_pos h, Reader.nonEmptyText]
    simp [Reader.text, Checked.refine, Checked.exactly, h]
    rfl

/-- A documentation fails only if it is no news and its name is empty. -/
theorem registerRecord_members (c : Catalogue) (kind : Kind) (name : String)
    (displayName category : Option String) (content : String) :
    c.registerRecord (Call.register kind name displayName category content).members
      = if c.isDocumented kind name then .ok (c, some (.alreadyDocumented kind name))
        else if h : name ≠ "" then
          .ok (c.register ⟨kind, ⟨name, h⟩, displayName.filter (· ≠ ""), category, content⟩)
        else .error (.invalid [⟨["name"], .emptyText⟩]) := by
  have hkind : part "kind" (Call.register kind name displayName category content).members
      = kind.write := rfl
  have hname : part "name" (Call.register kind name displayName category content).members
      = .text name := rfl
  rw [registerRecord, hkind, hname, kindOf_write]
  simp only [bind, Except.bind, searchText, namespaceIn, ite_self]
  by_cases hdoc : c.isDocumented kind name = true
  · have hfilter : (some name).filter (c.isDocumented kind ·) = some name := by
      simp [Option.filter, hdoc]
    rw [hfilter, if_pos hdoc]
    rfl
  · have hfilter : (some name).filter (c.isDocumented kind ·) = none := by
      simp [Option.filter, hdoc]
    rw [hfilter, if_neg hdoc, readDoc_members]
    by_cases h : name = ""
    · rw [dif_neg (by simpa using h), dif_neg (by simpa using h)]
      rfl
    · rw [dif_pos h, dif_pos h]
      rfl

/-- A mention fails only if its name is not there and empty. -/
theorem mentionRecord_members (c : Catalogue) (kind : Kind) (name : String)
    (text : Option String) :
    c.mentionRecord (Call.ensure kind name text).members
      = if c.contains kind name then .ok (c, none)
        else if h : name ≠ "" then .ok (c.mention kind ⟨name, h⟩ text)
        else .error (.invalid [⟨["name"], .emptyText⟩]) := by
  have hkind : part "kind" (Call.ensure kind name text).members = kind.write := rfl
  have hname : part "name" (Call.ensure kind name text).members = .text name := rfl
  have htext : description (Call.ensure kind name text).members = .exactly text := by
    cases text <;> rfl
  rw [mentionRecord, hkind, hname, htext, kindOf_write]
  simp only [bind, Except.bind, searchText, namespaceIn, ite_self, Option.any_some]
  by_cases hthere : c.contains kind name = true
  · rw [if_pos hthere, if_pos hthere]
    rfl
  · rw [if_neg hthere, if_neg hthere]
    by_cases h : name = ""
    · subst h
      rfl
    · rw [dif_pos h, Reader.nonEmptyText]
      simp only [Reader.text, Checked.refine, Checked.exactly, dif_pos h]
      rfl

/-- What a call makes of a catalogue: its name is there, at the end if it is new, and has the item
that it has after the call. -/
structure Settles (call : Call) (c c' : Catalogue) : Prop where
  keys : c'.entries.keys
    = if c.contains call.kind call.name then c.entries.keys else c.entries.keys ++ [call.key]
  lookup : ∀ kind name, c'.lookup kind name
    = if (kind, name) = call.key then some (call.itemAfter (c.lookup kind name))
      else c.lookup kind name

/-- Leaving everything as it is settles a call whose name has an item that stays. -/
theorem settles_self {call : Call} {c : Catalogue} {old : Item}
    (hold : c.lookup call.kind call.name = some old) (hstays : call.itemAfter (some old) = old) :
    Settles call c c where
  keys := by rw [contains, hold, Option.isSome_some, if_pos rfl]
  lookup kind name := by
    split
    · next hkey =>
      obtain ⟨rfl, rfl⟩ := Prod.mk.inj hkey
      rw [hold, hstays]
    · rfl

/-- Writing the item of a call settles the call unless an item stays. -/
theorem settles_insert {call : Call} {c : Catalogue}
    (hitem : call.itemAfter (c.lookup call.kind call.name) = call.item) :
    Settles call c ⟨c.entries.insert call.key call.item⟩ where
  keys := by
    have hmem : call.key ∈ c.entries.keys ↔ c.contains call.kind call.name = true :=
      OrderedMap.mem_keys_iff_isSome
    simp only [OrderedMap.keys_insert, hmem]
  lookup kind name := by
    rw [Catalogue.lookup, OrderedMap.get?_insert]
    split
    · next hkey =>
      obtain ⟨rfl, rfl⟩ := Prod.mk.inj hkey
      rw [hitem]
    · rfl

/-- Documenting a name settles the call. -/
theorem settles_register (c : Catalogue) (kind : Kind) (name : NonEmptyText)
    (displayName category : Option String) (content : String) :
    (c.register ⟨kind, name, displayName.filter (· ≠ ""), category, content⟩).2
        = (Call.register kind name.val displayName category content).remark? (c.lookup kind name.val)
      ∧ Settles (.register kind name.val displayName category content) c
          (c.register ⟨kind, name, displayName.filter (· ≠ ""), category, content⟩).1 := by
  have hitem : (Doc.mk kind name (displayName.filter (· ≠ "")) category content).item
      = (Call.register kind name.val displayName category content).item := by
    have hshown : textOr (displayName.filter (· ≠ "")) name.val = textOr displayName name.val := by
      cases displayName with
      | none => rfl
      | some shown => by_cases h : shown = "" <;> simp [Option.filter, textOr, h]
    rw [Doc.item, hshown]
    rfl
  have hlookup : c.lookup (Call.register kind name.val displayName category content).kind
      (Call.register kind name.val displayName category content).name = c.lookup kind name.val := rfl
  rw [register, isDocumented, hitem]
  dsimp only
  cases hold : c.lookup kind name.val with
  | none => exact ⟨rfl, settles_insert (by rw [hlookup, hold, Call.itemAfter])⟩
  | some old =>
    cases hplaceholder : old.placeholder with
    | false =>
      have hstays : (Call.register kind name.val displayName category content).itemAfter (some old)
          = old := by simp [Call.itemAfter, hplaceholder]
      simp only [hplaceholder, Bool.not_false, if_true, Call.remark?]
      exact ⟨rfl, settles_self hold hstays⟩
    | true =>
      simp only [hplaceholder, Bool.not_true, Call.remark?]
      exact ⟨rfl, settles_insert (by simp [hlookup, hold, Call.itemAfter, hplaceholder,
        Call.isRegister])⟩

/-- Mentioning a name settles the call. -/
theorem settles_mention (c : Catalogue) (kind : Kind) (name : NonEmptyText) (text : Option String) :
    (c.mention kind name text).2
        = (Call.ensure kind name.val text).remark? (c.lookup kind name.val)
      ∧ Settles (.ensure kind name.val text) c (c.mention kind name text).1 := by
  have hlookup : c.lookup (Call.ensure kind name.val text).kind (Call.ensure kind name.val text).name
      = c.lookup kind name.val := rfl
  unfold mention
  cases hold : c.lookup kind name.val with
  | some old =>
    rw [if_pos (by rw [contains, hold, Option.isSome_some])]
    refine ⟨by cases text <;> rfl, settles_self hold ?_⟩
    rw [Call.itemAfter, Call.isRegister, Bool.and_false]
    rfl
  | none =>
    rw [if_neg (by simp [contains, hold])]
    have hitem : (Call.ensure kind name.val text).itemAfter
        (c.lookup (Call.ensure kind name.val text).kind (Call.ensure kind name.val text).name)
        = (Call.ensure kind name.val text).item := by rw [hlookup, hold, Call.itemAfter]
    cases text with
    | some text => exact ⟨rfl, settles_insert hitem⟩
    | none => exact ⟨rfl, settles_insert hitem⟩

/-- **One call.** A call with a name is answered as the item of the name says, and settled. -/
theorem answer_of_named {call : Call} (h : call.name ≠ "") (c : Catalogue) :
    call.answer c = .ok (c.call call, call.remark? (c.lookup call.kind call.name))
      ∧ Settles call c (c.call call) := by
  have hanswer : ∃ c', call.answer c = .ok (c', call.remark? (c.lookup call.kind call.name))
      ∧ Settles call c c' := by
    cases call with
    | register kind name displayName category content =>
      replace h : name ≠ "" := h
      obtain ⟨hremark, hsettles⟩ := settles_register c kind ⟨name, h⟩ displayName category content
      refine ⟨_, ?_, hsettles⟩
      rw [Call.answer, registerRecord_members, dif_pos h, Call.kind, Call.name, ← hremark]
      split
      · next hdoc => rw [register, if_pos hdoc]
      · rfl
    | ensure kind name text =>
      replace h : name ≠ "" := h
      obtain ⟨hremark, hsettles⟩ := settles_mention c kind ⟨name, h⟩ text
      refine ⟨_, ?_, hsettles⟩
      rw [Call.answer, mentionRecord_members, dif_pos h, Call.kind, Call.name, ← hremark]
      split
      · next hthere =>
        unfold mention
        rw [if_pos hthere]
      · rfl
  obtain ⟨c', hc', hsettles⟩ := hanswer
  have hcall : c.call call = c' := by rw [Catalogue.call, hc']
  rw [hcall]
  exact ⟨hc', hsettles⟩

/-- A call without a name fails, and leaves everything as it was. -/
theorem answer_of_nameless {call : Call} (h : call.name = "") {c : Catalogue}
    (hc : c.lookup call.kind "" = none) :
    call.answer c = .error (.invalid [⟨["name"], .emptyText⟩]) ∧ c.call call = c := by
  have hanswer : call.answer c = .error (.invalid [⟨["name"], .emptyText⟩]) := by
    cases call with
    | register kind name displayName category content =>
      replace h : name = "" := h
      subst h
      have hdoc : c.isDocumented kind "" = false := by
        rw [isDocumented, show c.lookup kind "" = none from hc]
      rw [Call.answer, registerRecord_members, hdoc, dif_neg (by simp)]
      rfl
    | ensure kind name text =>
      replace h : name = "" := h
      subst h
      have hthere : c.contains kind "" = false := by
        rw [contains, show c.lookup kind "" = none from hc]
        rfl
      rw [Call.answer, mentionRecord_members, hthere, dif_neg (by simp)]
      rfl
  exact ⟨hanswer, by rw [Catalogue.call, hanswer]⟩

end Catalogue

/-! ## Lists of calls -/

/-- The names that calls are about, from first to last. -/
def mentioned (calls : List Call) : List (Kind × String) :=
  (calls.map Call.key).filter (·.2 ≠ "")

/-- The one among the calls on a name that documents it: a mention with a description, if it is the
first of them, and otherwise the first documentation. -/
def documenting (own : List Call) : Option Call :=
  (own.head?.filter Call.describes).or (own.find? Call.isRegister)

/-- The call that documents a name. -/
def documentingCall (calls : List Call) (key : Kind × String) : Option Call :=
  documenting (calls.filter (·.key = key))

/-- The item that a name gets: that of the call that documents it, and a placeholder if there is no
such call. -/
def itemFor (calls : List Call) (key : Kind × String) : Item :=
  match documentingCall calls key with
  | some call => call.item
  | none => (Call.ensure key.1 key.2 none).item

/-- What a call is answered after others. -/
def answerAfter (calls : List Call) : Call → Option Remark
  | .register kind name .. =>
    if (documentingCall calls (kind, name)).isSome then some (.alreadyDocumented kind name) else none
  | .ensure kind name description =>
    if (kind, name) ∈ mentioned calls then none
    else
      match description with
      | some _ => some (.documentedByDescription kind name)
      | none => some (.undocumented kind name)

/-- A list has what stands in another one, each once, in the order in which it stands there first. -/
structure FirstOccurrences {α : Type} [DecidableEq α] (l firsts : List α) : Prop where
  mem_iff : ∀ a, a ∈ firsts ↔ a ∈ l
  ordered : firsts.Pairwise fun a b => l.idxOf a < l.idxOf b

section

variable {α : Type} [DecidableEq α] {l firsts : List α} {a : α}

/-- What stands further back makes no difference to the order. -/
theorem FirstOccurrences.ordered_concat (h : FirstOccurrences l firsts) (a : α) :
    firsts.Pairwise fun b b' => (l ++ [a]).idxOf b < (l ++ [a]).idxOf b' := by
  refine h.ordered.imp_of_mem fun {b b'} hb hb' hlt => ?_
  rwa [List.idxOf_append_of_mem ((h.mem_iff b).1 hb),
    List.idxOf_append_of_mem ((h.mem_iff b').1 hb')]

/-- Repeating an element adds no first occurrence. -/
theorem FirstOccurrences.concat_of_mem (h : FirstOccurrences l firsts) (ha : a ∈ l) :
    FirstOccurrences (l ++ [a]) firsts where
  mem_iff b := by
    rw [h.mem_iff, List.mem_append, List.mem_singleton]
    exact (or_iff_left_of_imp fun hb => hb ▸ ha).symm
  ordered := h.ordered_concat a

/-- A new element comes last. -/
theorem FirstOccurrences.concat_of_notMem (h : FirstOccurrences l firsts) (ha : a ∉ l) :
    FirstOccurrences (l ++ [a]) (firsts ++ [a]) where
  mem_iff b := by rw [List.mem_append, h.mem_iff, List.mem_append]
  ordered := by
    refine List.pairwise_append.2 ⟨h.ordered_concat a, List.pairwise_singleton _ _, ?_⟩
    intro b hb a' ha'
    obtain rfl := List.mem_singleton.1 ha'
    have hbl : b ∈ l := (h.mem_iff b).1 hb
    rw [List.idxOf_append_of_mem hbl, List.idxOf_append_of_notMem ha]
    have := List.idxOf_lt_length_of_mem hbl
    omega

end

theorem documenting_concat (own : List Call) (call : Call) :
    documenting (own ++ [call])
      = (documenting own).or
          (if call.isRegister || (call.describes && own.isEmpty) then some call else none) := by
  cases own with
  | nil =>
    cases call with
    | register => rfl
    | ensure kind name text => cases text <;> rfl
  | cons first rest =>
    rw [documenting, documenting, List.find?_append, Option.or_assoc]
    simp [List.find?_singleton]

variable {calls : List Call} {key : Kind × String}

/-- A call that documents a name is one of those on the name, and its item is no placeholder. -/
theorem documentingCall_spec {call : Call} (h : documentingCall calls key = some call) :
    call ∈ calls ∧ call.key = key ∧ call.item.placeholder = false := by
  have hdocuments : call ∈ calls.filter (·.key = key) ∧ (call.describes || call.isRegister) := by
    rw [documentingCall, documenting, Option.or_eq_some_iff] at h
    rcases h with h | ⟨-, h⟩
    · obtain ⟨hhead, hdescribes⟩ := Option.filter_eq_some_iff.1 h
      exact ⟨List.mem_of_mem_head? hhead, by rw [hdescribes, Bool.true_or]⟩
    · exact ⟨List.mem_of_find?_eq_some h, by rw [List.find?_some h, Bool.or_true]⟩
  obtain ⟨hmem, hdocuments⟩ := hdocuments
  obtain ⟨hcall, hkey⟩ := List.mem_filter.1 hmem
  refine ⟨hcall, of_decide_eq_true hkey, ?_⟩
  cases call with
  | register => rfl
  | ensure kind name text =>
    cases text with
    | some text => rfl
    | none => exact absurd hdocuments (by simp [Call.describes, Call.isRegister])

/-- One more call documents its name if nothing before it does, and if it is a documentation, or the
first call on the name and has a description. -/
theorem documentingCall_concat (calls : List Call) (call : Call) (key : Kind × String) :
    documentingCall (calls ++ [call]) key
      = if call.key = key then
          (documentingCall calls key).or
            (if call.isRegister || (call.describes && decide (key ∉ calls.map Call.key)) then
              some call
            else none)
        else documentingCall calls key := by
  have hempty : (calls.filter (·.key = key)).isEmpty = decide (key ∉ calls.map Call.key) := by
    rw [Bool.eq_iff_iff, List.isEmpty_iff, List.filter_eq_nil_iff]
    simp
  rw [documentingCall, documentingCall, List.filter_append, ← hempty]
  by_cases h : call.key = key
  · rw [if_pos h, List.filter_cons_of_pos (by simp [h]), List.filter_nil, documenting_concat]
  · rw [if_neg h, List.filter_cons_of_neg (by simp [h]), List.filter_nil, List.append_nil]

/-- The item of a name after one more call on it. -/
theorem itemFor_concat (calls : List Call) (call : Call) :
    itemFor (calls ++ [call]) call.key
      = call.itemAfter
          (if call.key ∈ calls.map Call.key then some (itemFor calls call.key) else none) := by
  rw [itemFor, itemFor, documentingCall_concat, if_pos rfl]
  cases hfirst : documentingCall calls call.key with
  | some first =>
    obtain ⟨hmem, hkey, hplaceholder⟩ := documentingCall_spec hfirst
    rw [if_pos (List.mem_map.2 ⟨first, hmem, hkey⟩), Option.some_or]
    simp [Call.itemAfter, hplaceholder]
  | none =>
    rw [Option.none_or]
    by_cases hmem : call.key ∈ calls.map Call.key
    · -- A placeholder has been there, and gives way to a documentation.
      have hplaceholder : (Call.ensure call.key.1 call.key.2 none).item.placeholder = true := rfl
      cases hregister : call.isRegister with
      | true => simp [hmem, hregister, hplaceholder, Call.itemAfter]
      | false => simp [hmem, hregister, hplaceholder, Call.itemAfter]
    · rw [if_neg hmem, Call.itemAfter]
      cases call with
      | register => rfl
      | ensure kind name text =>
        cases text with
        | some text => simp [hmem, Call.isRegister, Call.describes]
        | none => rfl

theorem itemFor_concat_of_ne {call : Call} (h : call.key ≠ key) :
    itemFor (calls ++ [call]) key = itemFor calls key := by
  rw [itemFor, itemFor, documentingCall_concat, if_neg h]

/-- Placeholders are the items of names that no call documents. -/
theorem placeholder_itemFor (calls : List Call) (key : Kind × String) :
    (itemFor calls key).placeholder = (documentingCall calls key).isNone := by
  rw [itemFor]
  cases hfirst : documentingCall calls key with
  | none => rfl
  | some first => exact (documentingCall_spec hfirst).2.2

theorem mem_mentioned_iff {kind : Kind} {name : String} :
    (kind, name) ∈ mentioned calls ↔ name ≠ "" ∧ (kind, name) ∈ calls.map Call.key := by
  rw [mentioned, List.mem_filter, and_comm, decide_eq_true_iff]

theorem mentioned_concat (calls : List Call) (call : Call) :
    mentioned (calls ++ [call])
      = if call.name = "" then mentioned calls else mentioned calls ++ [call.key] := by
  rw [mentioned, mentioned, List.map_append, List.filter_append, List.map_singleton,
    List.filter_singleton]
  by_cases h : call.name = ""
  · simp [Call.key, h]
  · simp [Call.key, h]

/-! ## All calls -/

/-- What calls leave in a catalogue: the names that they are about, in the order in which they came
first, and for every name the item that it gets. -/
structure Reflects (calls : List Call) (c : Catalogue) : Prop where
  keys : FirstOccurrences (mentioned calls) c.entries.keys
  lookup : ∀ kind name, c.lookup kind name
    = if (kind, name) ∈ mentioned calls then some (itemFor calls (kind, name)) else none

namespace Reflects

variable {c : Catalogue}

theorem contains_iff (h : Reflects calls c) (kind : Kind) (name : String) :
    c.contains kind name = true ↔ (kind, name) ∈ mentioned calls := by
  rw [Catalogue.contains, h.lookup]
  split
  · next hmem => simp [hmem]
  · next hmem => simp [hmem]

theorem lookup_empty (h : Reflects calls c) (kind : Kind) : c.lookup kind "" = none := by
  rw [h.lookup, if_neg]
  intro hmem
  exact (mem_mentioned_iff.1 hmem).1 rfl

/-- What calls leave reflects one more of them, after it. -/
theorem call (h : Reflects calls c) (call : Call) : Reflects (calls ++ [call]) (c.call call) := by
  by_cases hname : call.name = ""
  · obtain ⟨-, hcall⟩ := Catalogue.answer_of_nameless hname (h.lookup_empty call.kind)
    have hmentioned : mentioned (calls ++ [call]) = mentioned calls := by
      rw [mentioned_concat, if_pos hname]
    rw [hcall]
    constructor
    · rw [hmentioned]
      exact h.keys
    · intro kind name
      rw [hmentioned, h.lookup]
      split
      · next hmem =>
        rw [itemFor_concat_of_ne]
        intro hkey
        exact (mem_mentioned_iff.1 hmem).1 ((congrArg Prod.snd hkey).symm.trans hname)
      · rfl
  · obtain ⟨-, hsettles⟩ := Catalogue.answer_of_named hname c
    have hmentioned : mentioned (calls ++ [call]) = mentioned calls ++ [call.key] := by
      rw [mentioned_concat, if_neg hname]
    constructor
    · rw [hmentioned, hsettles.keys]
      split
      · next hthere => exact h.keys.concat_of_mem ((h.contains_iff _ _).1 hthere)
      · next hthere => exact h.keys.concat_of_notMem (mt (h.contains_iff _ _).2 hthere)
    · intro kind name
      rw [hsettles.lookup, hmentioned]
      by_cases hkey : (kind, name) = call.key
      · have hmem : (kind, name) ∈ mentioned calls ↔ call.key ∈ calls.map Call.key := by
          obtain ⟨rfl, rfl⟩ := Prod.mk.inj hkey
          exact mem_mentioned_iff.trans (and_iff_right hname)
        have hlast : (kind, name) ∈ mentioned calls ++ [call.key] := by simp [hkey]
        rw [if_pos hkey, if_pos hlast, h.lookup, hkey, itemFor_concat]
        rw [hkey] at hmem
        simp only [hmem]
      · rw [if_neg hkey, h.lookup, itemFor_concat_of_ne (Ne.symm hkey)]
        simp [hkey]

/-- The items stand under their own names. -/
theorem keyed (h : Reflects calls c) : c.Keyed := by
  intro kind name item hitem
  rw [h.lookup] at hitem
  split at hitem
  · next hmem =>
    obtain rfl := Option.some.inj hitem
    have hkey : ((itemFor calls (kind, name)).kind, (itemFor calls (kind, name)).name)
        = (kind, name) := by
      rw [itemFor]
      cases hfirst : documentingCall calls (kind, name) with
      | none => rfl
      | some first =>
        rw [← (documentingCall_spec hfirst).2.1]
        simp [Call.key]
    obtain ⟨hkind, hname⟩ := Prod.mk.inj hkey
    exact ⟨hkind, hname, (mem_mentioned_iff.1 hmem).1⟩
  · exact absurd hitem (by simp)

/-- A call is answered as the calls before it say. -/
theorem remark?_eq (h : Reflects calls c) {call : Call} (hname : call.name ≠ "") :
    call.remark? (c.lookup call.kind call.name) = answerAfter calls call := by
  rw [h.lookup]
  cases call with
  | register kind name displayName category content =>
    show Call.remark? _ (if (kind, name) ∈ mentioned calls then _ else none) = _
    have hplaceholder := placeholder_itemFor calls (kind, name)
    rw [answerAfter]
    cases hfirst : documentingCall calls (kind, name) with
    | none =>
      rw [hfirst] at hplaceholder
      split
      · exact if_pos hplaceholder
      · rfl
    | some first =>
      obtain ⟨hmem, hkey, -⟩ := documentingCall_spec hfirst
      have hthere : (kind, name) ∈ mentioned calls :=
        mem_mentioned_iff.2 ⟨hname, List.mem_map.2 ⟨first, hmem, hkey⟩⟩
      rw [hfirst] at hplaceholder
      rw [if_pos hthere]
      exact if_neg (Bool.eq_false_iff.1 hplaceholder)
  | ensure kind name text =>
    by_cases hmem : (kind, name) ∈ mentioned calls
    · cases text <;> simp [answerAfter, Call.remark?, Call.kind, Call.name, hmem]
    · cases text <;> simp [answerAfter, Call.remark?, Call.kind, Call.name, hmem]

end Reflects

namespace Catalogue

/-- In a catalogue whose items stand under their own names, the names of the items are the keys. -/
theorem Keyed.map_items {c : Catalogue} (h : c.Keyed) :
    c.items.map (fun i => (i.kind, i.name)) = c.entries.keys := by
  rw [items, OrderedMap.values, OrderedMap.keys, List.map_map]
  refine List.map_congr_left fun e he => ?_
  obtain ⟨⟨kind, name⟩, item⟩ := e
  obtain ⟨hkind, hname, -⟩ := h kind name item (OrderedMap.get?_eq_some_iff.2 he)
  rw [Function.comp_apply, hkind, hname]

theorem afterCalls_concat (calls : List Call) (call : Call) :
    afterCalls (calls ++ [call]) = (afterCalls calls).call call := List.foldl_append

/-- Calls leave what reflects them. -/
theorem reflects_afterCalls (calls : List Call) : Reflects calls (afterCalls calls) := by
  induction calls using List.reverseRecOn with
  | nil => exact ⟨⟨fun _ => Iff.rfl, .nil⟩, fun _ _ => rfl⟩
  | append_singleton calls call ih =>
    rw [afterCalls_concat]
    exact ih.call call

/-- Calls without a name leave nothing. -/
theorem afterCalls_filter (calls : List Call) :
    afterCalls (calls.filter (·.name ≠ "")) = afterCalls calls := by
  induction calls using List.reverseRecOn with
  | nil => rfl
  | append_singleton calls call ih =>
    rw [List.filter_append, afterCalls_concat]
    by_cases h : call.name = ""
    · have hlookup := (reflects_afterCalls calls).lookup_empty call.kind
      rw [List.filter_cons_of_neg (by simp [h]), List.filter_nil, List.append_nil, ih,
        (answer_of_nameless h hlookup).2]
    · rw [List.filter_cons_of_pos (by simp [h]), List.filter_nil, afterCalls_concat, ih]

/-- **Filling a catalogue.** After any calls on an empty catalogue its items are those of the names
that the calls are about, each once and in the order in which the names came first. Each item is
built from the call that documents its name, and is a placeholder if there is none. The next call
fails if it has no name, and then it is as if it had not been made. Otherwise a documentation is
answered with a warning exactly if a call before it documents the name, and a mention exactly if it
is the first call on its name: with a note if it has a description, and with a warning if not. -/
theorem filled_by_calls (calls : List Call) :
    FirstOccurrences (mentioned calls) ((afterCalls calls).items.map fun i => (i.kind, i.name))
      ∧ (∀ kind name, (afterCalls calls).lookup kind name
          = if (kind, name) ∈ mentioned calls then some (itemFor calls (kind, name)) else none)
      ∧ (∀ key, (itemFor calls key).placeholder = (documentingCall calls key).isNone)
      ∧ (∀ call : Call, call.answer (afterCalls calls)
          = if call.name = "" then .error (.invalid [⟨["name"], .emptyText⟩])
            else .ok (afterCalls (calls ++ [call]), answerAfter calls call))
      ∧ afterCalls (calls.filter (·.name ≠ "")) = afterCalls calls
      ∧ ∀ call : Call, (answerAfter calls call).map (·.severity)
          = (answerAfter calls call).map fun _ => if call.describes then .info else .warning := by
  have h := reflects_afterCalls calls
  refine ⟨?_, h.lookup, placeholder_itemFor calls, fun call => ?_, afterCalls_filter calls,
    fun call => ?_⟩
  · rw [h.keyed.map_items]
    exact h.keys
  · by_cases hname : call.name = ""
    · rw [if_pos hname]
      exact (answer_of_nameless hname (h.lookup_empty call.kind)).1
    · rw [if_neg hname, (answer_of_named hname _).1, h.remark?_eq hname, afterCalls_concat]
  · cases call with
    | register kind name displayName category content =>
      rw [answerAfter]
      split <;> rfl
    | ensure kind name text =>
      by_cases hmem : (kind, name) ∈ mentioned calls
      · cases text <;> simp [answerAfter, hmem]
      · cases text <;> simp [answerAfter, hmem, Call.describes, Remark.severity]

/-- A documentation that comes late takes the place of the placeholder. -/
example : (afterCalls [.ensure .tactics "simp" none, .register .tactics "rw" none none "Rewrite.",
    .register .tactics "simp" none none "Simplify."]).items.map (·.content)
    = ["Simplify.", "Rewrite."] := by decide +kernel

end Catalogue

end Curriculum
