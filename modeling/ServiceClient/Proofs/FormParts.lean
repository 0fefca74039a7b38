import ServiceClient.Proofs.FormLayout
import ServiceClient.Proofs.MakingRecords

/-!
Reading the form of a record. A form is made of parts (`FormPart`), inputs and frames with records
of their own; reading it sets the fields of the record one after the other, each to what its part
gives. `reads_enter` says what a reading that stops at some field leaves behind: the fields before
it hold what was entered, that field and those after it what they held before.
-/

namespace ServiceClient

/-- A part of the form of a record: an input with what is entered in it, which is read as a value of
a type, or a frame for a record, with the parts for its fields under their names. -/
inductive FormPart
  | input (t : TypeRef) (entered : Run Item)
  | frame (id own : Nat) (type : RecordType) (parts : List (String × FormPart))

namespace FormPart

/-- Induction over a part and the parts inside it. -/
theorem insideInduction {P : FormPart → Prop} (input : ∀ t entered, P (.input t entered))
    (frame : ∀ id own type parts, (∀ p ∈ parts, P p.2) → P (.frame id own type parts))
    (part : FormPart) : P part :=
  @FormPart.rec P (fun parts => ∀ p ∈ parts, P p.2) (fun p => P p.2) input frame
    (fun _ member => nomatch member)
    (fun _ _ here later => List.forall_mem_cons.mpr ⟨here, later⟩) (fun _ _ inside => inside) part

mutual

/-- Reads what is entered in a part. -/
def reader : FormPart → Run Item
  | input t entered => do itemOfWire invoke (.object World.typeTable) t (← entered)
  | frame id _ _ parts => enter invoke (.object id) (readersOf parts)

def readersOf : List (String × FormPart) → List (String × Run Item)
  | [] => []
  | (name, part) :: parts => (name, part.reader) :: readersOf parts

end

mutual

/-- The numbers of the records in a part and of their own members. -/
def numbers : FormPart → List Nat
  | input _ _ => []
  | frame id own _ parts => id :: own :: numbersOf parts

def numbersOf : List (String × FormPart) → List Nat
  | [] => []
  | (_, part) :: parts => part.numbers ++ numbersOf parts

end

theorem mem_numbersOf {parts : List (String × FormPart)} {p : String × FormPart}
    (member : p ∈ parts) {n : Nat} (inside : n ∈ p.2.numbers) : n ∈ numbersOf parts := by
  induction parts with
  | nil => cases member
  | cons q parts ih =>
    obtain ⟨name, part⟩ := q
    rw [numbersOf, List.mem_append]
    rcases List.mem_cons.mp member with rfl | later
    · exact .inl inside
    · exact .inr (ih later)

/-- The part of a form stands in a world: its inputs can be read without a change to what is there,
and the records of its frames are there. -/
inductive Stands (types : List RecordType) (world : World) : FormPart → Prop
  | input {t : TypeRef} {entered : Run Item} (quiet : Allocates types entered) :
      Stands types world (.input t entered)
  | frame {id own : Nat} {type : RecordType} {parts : List (String × FormPart)}
      {entries : List (String × Item)} (record : world.HasInstance types id own type entries)
      (new : (World.start types).objects.size ≤ own)
      (names : parts.map (·.1) = type.fieldNames) (each : ∀ p ∈ parts, Stands types world p.2) :
      Stands types world (.frame id own type parts)

/-- A thing is what was entered in a part between two worlds. In an input it is what the input gave
at some time in between, made into records as its type says; in a frame it is the record of the
frame, whose fields hold what was entered in their parts. Afterwards nothing was changed but the
objects with the numbers `written`. -/
inductive Entered (types : List RecordType) (before : World) (written : List Nat) (after : World) :
    FormPart → Item → Prop
  | input {t : TypeRef} {entered : Run Item} {v : Item} {world world' : World}
      (reached : before.Changes written world)
      (read : ((input t entered).reader).run world = (.ok v, world'))
      (stays : world'.Changes written after) :
      Entered types before written after (.input t entered) v
  | frame {id own : Nat} {type : RecordType} {parts : List (String × FormPart)}
      {entries : List (String × Item)} (record : after.HasInstance types id own type entries)
      (all : ∀ p ∈ parts, ∃ v, entries.lookup p.1 = some v)
      (each : ∀ p ∈ parts, ∀ v, entries.lookup p.1 = some v →
        Entered types before written after p.2 v) :
      Entered types before written after (.frame id own type parts) (.object id)

section

variable {types : List RecordType} {world world' before after before' after' : World}
  {written written' others : List Nat}

theorem Stands.keep {part : FormPart} (stands : part.Stands types world)
    (changes : world.Changes written world') (apart : ∀ n ∈ part.numbers, n ∉ written) :
    part.Stands types world' := by
  induction stands with
  | input quiet => exact .input quiet
  | frame record new names _ ih =>
    rw [numbers, List.forall_mem_cons, List.forall_mem_cons] at apart
    obtain ⟨idKept, ownKept, inside⟩ := apart
    refine .frame (record.keep changes idKept ownKept) new names fun p member => ?_
    exact ih p member fun n among => inside n (mem_numbersOf member among)

/-- What was entered in a part stays so for worlds further apart, if what changes in between is
none of its records. -/
theorem Entered.widen {part : FormPart} {v : Item}
    (entered : part.Entered types before written after v)
    (earlier : before'.Changes written' before) (more : ∀ n ∈ written, n ∈ written')
    (later : after.Changes others after') (inside : ∀ n ∈ others, n ∈ written')
    (apart : ∀ n ∈ part.numbers, n ∉ others) :
    part.Entered types before' written' after' v := by
  induction entered with
  | input reached read stays =>
    exact .input (earlier.trans (reached.mono more)) read
      ((stays.mono more).trans (later.mono inside))
  | frame record all _ ih =>
    rw [numbers, List.forall_mem_cons, List.forall_mem_cons] at apart
    obtain ⟨idKept, ownKept, kept⟩ := apart
    refine .frame (record.keep later idKept ownKept) all fun p member v found => ?_
    exact ih p member v found fun n among => kept n (mem_numbersOf member among)

/-- The fields of a record hold what was entered in their parts, and its other members are what they
were. -/
structure EnteredIn (types : List RecordType) (before : World) (written : List Nat) (after : World)
    (entries entries' : List (String × Item)) (parts : List (String × FormPart)) : Prop where
  entered : ∀ p ∈ parts, ∃ v, entries'.lookup p.1 = some v ∧
    p.2.Entered types before written after v
  kept : ∀ name, name ∉ parts.map (·.1) → entries'.lookup name = entries.lookup name

/-- What came of reading the parts for the fields of a record one after the other. All were read, or
the reading of one failed, and only the fields before that one were set. -/
inductive ReadUpTo (types : List RecordType) (before : World) (written : List Nat) (after : World)
    (id : Nat) (entries entries' : List (String × Item)) (parts : List (String × FormPart)) :
    Except Failure Item → Prop
  | all (entered : EnteredIn types before written after entries entries' parts) :
      ReadUpTo types before written after id entries entries' parts (.ok (.object id))
  | failed {done later : List (String × FormPart)} {p : String × FormPart} {failure : Failure}
      {world : World} (split : parts = done ++ p :: later)
      (entered : EnteredIn types before written after entries entries' done)
      (reached : before.Changes written world)
      (fails : p.2.reader.run world = (.error failure, after)) :
      ReadUpTo types before written after id entries entries' parts (.error failure)

/-- The parts for fields of a record stand ready to be read in a world. -/
structure Ready (types : List RecordType) (world : World) (id own : Nat) (type : RecordType)
    (entries : List (String × Item)) (parts : List (String × FormPart)) : Prop where
  record : world.HasInstance types id own type entries
  new : (World.start types).objects.size ≤ own
  free : ∀ p ∈ parts, isReserved p.1 = false
  distinct : (parts.map (·.1)).Nodup
  each : ∀ p ∈ parts, p.2.Stands types world
  apart : (id :: own :: numbersOf parts).Nodup

/-- Reading a part that stands in a world changes only its own records, and if it succeeds, it gives
what was entered. -/
def ReadsWell (types : List RecordType) (part : FormPart) : Prop :=
  ∀ {world after : World} {r : Except Failure Item}, world.Declares types →
    part.Stands types world → part.numbers.Nodup → part.reader.run world = (r, after) →
      after.Declares types ∧ world.Changes part.numbers after ∧ part.Stands types after ∧
        ∀ v, r = .ok v → part.Entered types world part.numbers after v

variable {id own : Nat} {type : RecordType} {entries entries' : List (String × Item)}
  {name : String} {part : FormPart} {parts : List (String × FormPart)}

/-- The numbers of a first part are none of those of the record and of the other parts. -/
theorem Ready.first_apart
    (ready : Ready types world id own type entries ((name, part) :: parts)) :
    (∀ n ∈ part.numbers, n ≠ id ∧ n ∉ own :: numbersOf parts) ∧ part.numbers.Nodup ∧
      (id :: own :: numbersOf parts).Nodup := by
  have apart := ready.apart
  rw [numbersOf, List.nodup_cons, List.nodup_cons, List.nodup_append] at apart
  obtain ⟨idApart, ownApart, distinct, distinct', disjoint⟩ := apart
  simp only [List.mem_cons, List.mem_append, not_or] at idApart ownApart
  refine ⟨fun n among => ⟨?_, ?_⟩, distinct, ?_⟩
  · rintro rfl
    exact idApart.2.1 among
  · rw [List.mem_cons, not_or]
    refine ⟨?_, fun among' => disjoint n among n among' rfl⟩
    rintro rfl
    exact ownApart.1 among
  · rw [List.nodup_cons, List.nodup_cons, List.mem_cons, not_or]
    exact ⟨⟨idApart.1, idApart.2.2⟩, ownApart.2, distinct'⟩

/-- The record of a form stays as it is while a part of it is read. -/
theorem Ready.keep_record
    (ready : Ready types world id own type entries ((name, part) :: parts))
    (changes : world.Changes part.numbers world') :
    world'.HasInstance types id own type entries := by
  obtain ⟨first, -, -⟩ := ready.first_apart
  refine ready.record.keep changes (fun among => (first id among).1 rfl) fun among => ?_
  exact (first own among).2 List.mem_cons_self

theorem Ready.keep_later
    (ready : Ready types world id own type entries ((name, part) :: parts))
    (changes : world.Changes part.numbers world') : ∀ p ∈ parts, p.2.Stands types world' := by
  obtain ⟨first, -, -⟩ := ready.first_apart
  intro p member
  refine (ready.each p (List.mem_cons_of_mem _ member)).keep changes fun n among among' => ?_
  exact (first n among').2 (List.mem_cons_of_mem _ (mem_numbersOf member among))

/-- Once a part was read and the field was set, the other parts are ready. -/
theorem Ready.next (ready : Ready types world id own type entries ((name, part) :: parts))
    (changes : world.Changes part.numbers world') (v : Item) :
    Ready types (world'.withEntries own (putEntry name v entries)) id own type
      (putEntry name v entries) parts where
  record := (ready.keep_record changes).put (ready.free _ List.mem_cons_self) v
  new := ready.new
  free p member := ready.free p (List.mem_cons_of_mem _ member)
  distinct := (List.nodup_cons.mp ready.distinct).2
  each p member := by
    have apart := (List.nodup_cons.mp (List.nodup_cons.mp ready.first_apart.2.2).2).1
    refine (ready.keep_later changes p member).keep (changes_withEntries world' own _) ?_
    intro n among same
    rw [List.mem_singleton.mp same] at among
    exact apart (mem_numbersOf member among)
  apart := ready.first_apart.2.2

theorem mem_numbersOf_cons {n : Nat} (among : n ∈ own :: numbersOf parts) :
    n ∈ own :: numbersOf ((name, part) :: parts) := by
  rcases List.mem_cons.mp among with rfl | later
  · exact List.mem_cons_self
  · exact List.mem_cons_of_mem _ (List.mem_append_right _ later)

/-- A field that was set to what was entered in its part, before others were. -/
theorem EnteredIn.cons {done : List (String × FormPart)} {v : Item}
    (rest : EnteredIn types before (own :: numbersOf parts) after (putEntry name v entries) entries'
      done)
    (first : part.Entered types world part.numbers world' v)
    (earlier : world.Changes (own :: numbersOf ((name, part) :: parts)) before)
    (later : world'.Changes (own :: numbersOf parts) after)
    (apart : ∀ n ∈ part.numbers, n ∉ own :: numbersOf parts) (new : name ∉ done.map (·.1)) :
    EnteredIn types world (own :: numbersOf ((name, part) :: parts)) after entries entries'
      ((name, part) :: done) where
  entered := by
    have others : ∀ n ∈ own :: numbersOf parts, n ∈ own :: numbersOf ((name, part) :: parts) :=
      fun _ => mem_numbersOf_cons
    refine List.forall_mem_cons.mpr ⟨⟨v, ?_, ?_⟩, fun p member => ?_⟩
    · rw [rest.kept name new, lookup_putEntry, if_pos rfl]
    · refine first.widen (.refl _ _) (fun n among => ?_) later others apart
      exact List.mem_cons_of_mem _ (List.mem_append_left _ among)
    · obtain ⟨v', found, entered⟩ := rest.entered p member
      exact ⟨v', found, entered.widen earlier others (.refl [] _) (by simp) (by simp)⟩
  kept key other := by
    rw [List.map_cons, List.mem_cons, not_or] at other
    rw [rest.kept key other.2, lookup_putEntry, if_neg other.1]

/-- Reading the parts for the fields of a record sets the fields one after the other, up to the
first part that cannot be read. -/
theorem reads_enter (each : ∀ p ∈ parts, ReadsWell types p.2) {r : Except Failure Item}
    (declared : world.Declares types) (ready : Ready types world id own type entries parts)
    (done : (enter invoke (.object id) (readersOf parts)).run world = (r, after)) :
    after.Declares types ∧ world.Changes (own :: numbersOf parts) after ∧
      (∀ p ∈ parts, p.2.Stands types after) ∧
      ∃ entries', after.HasInstance types id own type entries' ∧
        ReadUpTo types world (own :: numbersOf parts) after id entries entries' parts r := by
  induction parts generalizing world entries with
  | nil =>
    cases done
    exact ⟨declared, .refl _ _, by simp, entries, ready.record, .all ⟨by simp, fun _ _ => rfl⟩⟩
  | cons p parts ih =>
    obtain ⟨name, part⟩ := p
    obtain ⟨wellHere, wellLater⟩ := List.forall_mem_cons.mp each
    obtain ⟨first, distinct, -⟩ := ready.first_apart
    rw [readersOf, enter, run_bind] at done
    cases read : part.reader.run world with
    | mk r₁ world₁ =>
      obtain ⟨declared₁, changes₁, stands₁, entered₁⟩ :=
        wellHere declared (ready.each _ List.mem_cons_self) distinct read
      have ofFirst : world.Changes (own :: numbersOf ((name, part) :: parts)) world₁ :=
        changes₁.mono fun n among => List.mem_cons_of_mem _ (List.mem_append_left _ among)
      rw [read] at done
      cases r₁ with
      | error failure =>
        cases done
        refine ⟨declared₁, ofFirst, ?_, entries, ready.keep_record changes₁, ?_⟩
        · exact List.forall_mem_cons.mpr ⟨stands₁, ready.keep_later changes₁⟩
        · exact .failed (List.nil_append _).symm ⟨by simp, fun _ _ => rfl⟩ (.refl _ _) read
      | ok v =>
        have record₁ := ready.keep_record changes₁
        have free := ready.free _ List.mem_cons_self
        have set := changes_withEntries world₁ own (putEntry name v entries)
        have declared₂ := declared₁.writes set (by simpa using ready.new)
        simp only at done
        rw [run_bind, record₁.run_setMember invoke declared₁ free v] at done
        obtain ⟨declared', changes', stands', entries', record', outcome⟩ :=
          ih wellLater declared₂ (ready.next changes₁ v) done
        have apart : ∀ n ∈ part.numbers, n ∉ own :: numbersOf parts := fun n among =>
          (first n among).2
        have later : world₁.Changes (own :: numbersOf parts) after :=
          (set.mono (by simp)).trans changes'
        have others : ∀ n ∈ own :: numbersOf parts, n ∈ own :: numbersOf ((name, part) :: parts) :=
          fun _ => mem_numbersOf_cons
        have earlier := ofFirst.trans (set.mono (by simp))
        have entered := entered₁ v rfl
        have new := (List.nodup_cons.mp ready.distinct).1
        refine ⟨declared', ofFirst.trans (later.mono others), ?_, entries', record', ?_⟩
        · exact List.forall_mem_cons.mpr ⟨stands₁.keep later apart, stands'⟩
        cases outcome with
        | all rest => exact .all (rest.cons entered earlier later apart new)
        | @failed done' later' q failure world' split rest reached fails =>
          refine .failed (congrArg _ split) (rest.cons entered earlier later apart fun among => ?_)
            (earlier.trans (reached.mono others)) fails
          rw [split, List.map_append] at new
          exact new (List.mem_append_left _ among)

/-- The parts of a frame that stands in a world are ready to be read. -/
theorem Stands.ready (sound : WellDeclared types)
    (stands : (FormPart.frame id own type parts).Stands types world)
    (distinct : (FormPart.frame id own type parts).numbers.Nodup) :
    ∃ entries, Ready types world id own type entries parts := by
  cases stands with
  | @frame _ _ _ _ entries record new names each =>
    refine ⟨entries, record, new, fun p member => ?_, ?_, each, distinct⟩
    · have field : p.1 ∈ type.fieldNames := names ▸ List.mem_map_of_mem member
      exact sound.unreserved type record.declared p.1 field
    · rw [names]
      exact sound.fields type record.declared

/-- Every part reads well. -/
theorem readsWell (sound : WellDeclared types) (part : FormPart) : ReadsWell types part := by
  induction part using insideInduction with
  | input t entered =>
    intro world after r declared stands distinct done
    cases stands with
    | input quiet =>
      have makes := makesRecords_invokeWithin sound greatestDepth
      have allocates : Allocates types (input t entered).reader := by
        rw [reader]
        exact quiet.bind fun item => allocates_itemOfWire sound makes t item
      have changes := (allocates world declared).of_run done
      refine ⟨declared.grows changes, changes, .input quiet, fun v same => ?_⟩
      subst same
      exact .input (.refl _ _) done (.refl _ _)
  | frame id own type parts ih =>
    intro world after r declared stands distinct done
    obtain ⟨entries, ready⟩ := stands.ready sound distinct
    obtain ⟨declared', changes, stands', entries', record, outcome⟩ :=
      reads_enter ih declared ready done
    have inside : ∀ n ∈ own :: numbersOf parts, n ∈ (frame id own type parts).numbers :=
      fun n among => List.mem_cons_of_mem id among
    cases stands with
    | frame _ new names _ =>
      refine ⟨declared', changes.mono inside, .frame record new names stands', fun v same => ?_⟩
      subst same
      cases outcome with
      | all rest =>
        refine .frame record (fun p member => ?_) fun p member v found => ?_
        · obtain ⟨v, found, -⟩ := rest.entered p member
          exact ⟨v, found⟩
        · obtain ⟨v', found', entered⟩ := rest.entered p member
          obtain rfl : v' = v := Option.some.inj (found'.symm.trans found)
          exact entered.widen (.refl _ _) inside (.refl [] _) (by simp) (by simp)

end

end FormPart

end ServiceClient
