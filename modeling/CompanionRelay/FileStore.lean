import Mathlib.Data.List.Infix
import Mathlib.Logic.Function.Basic
import Mathlib.Tactic.Common

/-!
src/monitor/src/store.js: the calls of one key of a fileStore, file step by file step. A put
writes a temporary file and renames it over the key's file, and all puts on the key write the
same temporary file. A put that opens it while another put is between its open and its rename
publishes what is not whole and takes the file from under a rename. Puts that keep apart are
atomic.
-/

namespace Relay.FileStore

open Function (update)

abbrev Content := List UInt8

section Disk

/-- The directory of the store: whether it is there, the files that the temporary path and the
key's path name, and what every file holds, named or not. -/
structure Disk where
  dir : Bool
  tmp : Option Nat
  path : Option Nat
  content : Nat → Content
  next : Nat

/-- `open` with O_CREAT and O_TRUNC of the temporary path. -/
def Disk.truncate (disk : Disk) : Disk × Nat :=
  match disk.tmp with
  | some file => ({ disk with content := update disk.content file [] }, file)
  | none =>
      ({ disk with
          tmp := some disk.next
          content := update disk.content disk.next []
          next := disk.next + 1 }, disk.next)

/-- A write at an offset; what lies between the end of the file and the offset reads as zeros. -/
def overwrite (content : Content) (offset : Nat) (piece : Content) : Content :=
  (content ++ List.replicate (offset - content.length) 0).take offset ++ piece ++
    content.drop (offset + piece.length)

def Disk.write (disk : Disk) (file offset : Nat) (piece : Content) : Disk :=
  { disk with content := update disk.content file (overwrite (disk.content file) offset piece) }

end Disk

section Calls

/-- How far a put is: called, the directory made, inside writeFile with so much written,
writeFile done, and its end. -/
inductive PutStage
  | called
  | made
  | writing (file offset : Nat)
  | written
  | done
  | failed
  deriving DecidableEq

/-- How far a get is: called, inside readFile with so much read, and its answer. -/
inductive GetStage
  | called
  | reading (file : Nat) (got : Content)
  | returned (raw : Option Content)
  deriving DecidableEq

inductive Call
  | put (val : Content) (stage : PutStage)
  | get (stage : GetStage)
  deriving DecidableEq

/-- The file steps. A write or a read is of a piece of any length. -/
inductive Act
  | mkdir
  | truncate
  | write (count : Nat)
  | close
  | rename
  | openPath
  | read (count : Nat)
  | finish

/-- The next file step of a call, if it is this one. A path without a file is ENOENT: null for
a get, an error for the rename of a put. -/
def Call.advance (disk : Disk) : Call → Act → Option (Disk × Call)
  | .put val .called, .mkdir => some ({ disk with dir := true }, .put val .made)
  | .put val .made, .truncate =>
      if disk.dir then
        let (disk, file) := disk.truncate
        some (disk, .put val (.writing file 0))
      else some (disk, .put val .failed)
  | .put val (.writing file offset), .write count =>
      let piece := (val.drop offset).take count
      some (disk.write file offset piece, .put val (.writing file (offset + piece.length)))
  | .put val (.writing _ offset), .close =>
      if val.length ≤ offset then some (disk, .put val .written) else none
  | .put val .written, .rename =>
      match disk.tmp with
      | some file => some ({ disk with path := some file, tmp := none }, .put val .done)
      | none => some (disk, .put val .failed)
  | .get .called, .openPath =>
      match disk.path with
      | some file => some (disk, .get (.reading file []))
      | none => some (disk, .get (.returned none))
  | .get (.reading file got), .read count =>
      some (disk, .get (.reading file (got ++ ((disk.content file).drop got.length).take count)))
  | .get (.reading file got), .finish =>
      if (disk.content file).length ≤ got.length then some (disk, .get (.returned (some got))) else none
  | _, _ => none

structure State where
  disk : Disk
  calls : Nat → Option Call

/-- What happens next: a call of put or get, or the next file step of a call. -/
inductive Event
  | put (id : Nat) (val : Content)
  | get (id : Nat)
  | act (id : Nat) (act : Act)

def State.step (state : State) : Event → Option State
  | .put id val =>
      match state.calls id with
      | none => some { state with calls := update state.calls id (some (.put val .called)) }
      | some _ => none
  | .get id =>
      match state.calls id with
      | none => some { state with calls := update state.calls id (some (.get .called)) }
      | some _ => none
  | .act id act =>
      match state.calls id with
      | some call => (call.advance state.disk act).map fun next =>
          ⟨next.1, update state.calls id (some next.2)⟩
      | none => none

def State.run (state : State) : List Event → Option State
  | [] => some state
  | event :: rest => (state.step event).bind fun next => next.run rest

/-- No call yet, nothing stored; a crash may have left a temporary file behind. -/
structure State.Fresh (state : State) : Prop where
  idle : ∀ id, state.calls id = none
  empty : state.disk.path = none
  left : ∀ file ∈ state.disk.tmp, file < state.disk.next

end Calls

section Claims

/-- A call has given the store this value. -/
def State.Put (state : State) (val : Content) : Prop :=
  ∃ id stage, state.calls id = some (.put val stage)

/-- Every answer is a value that was put, none comes after a completed put, and no put fails. -/
structure State.Atomic (state : State) : Prop where
  whole : ∀ id raw, state.calls id = some (.get (.returned (some raw))) → state.Put raw
  missing : ∀ id next, state.step (.act id .openPath) = some next →
    next.calls id = some (.get (.returned none)) → ∀ other val, state.calls other ≠ some (.put val .done)
  errorless : ∀ id val, state.calls id ≠ some (.put val .failed)

/-- A put from the open of its temporary file up to its rename. -/
def Call.busy : Call → Bool
  | .put _ (.writing _ _) => true
  | .put _ .written => true
  | _ => false

def State.Idle (state : State) : Prop := ∀ id call, state.calls id = some call → call.busy = false

/-- In this run a put opens its temporary file only while no other put is busy. -/
def State.Apart (state : State) : List Event → Prop
  | [] => True
  | event :: rest =>
      (∀ id, event = .act id .truncate → state.Idle) ∧
        ∀ next, state.step event = some next → next.Apart rest

end Claims

section Step
variable {disk next : Disk} {kept : Content → Prop} {call after : Call} {act : Act}

/-- What a call that keeps apart relies on: the file that it writes is the temporary file and has
what it wrote so far, and the file that it reads is not and has a value that was put. -/
def Call.Fits (disk : Disk) (kept : Content → Prop) : Call → Prop
  | .put _ .called => True
  | .put _ .made => disk.dir = true
  | .put val (.writing file offset) =>
      disk.tmp = some file ∧ offset ≤ val.length ∧ disk.content file = val.take offset
  | .put val .written => ∃ file, disk.tmp = some file ∧ disk.content file = val
  | .put _ .done => disk.path ≠ none
  | .put _ .failed => False
  | .get .called => True
  | .get (.reading file got) =>
      file < disk.next ∧ disk.tmp ≠ some file ∧ kept (disk.content file) ∧ got <+: disk.content file
  | .get (.returned (some raw)) => kept raw
  | .get (.returned none) => True

structure Disk.Sound (disk : Disk) (kept : Content → Prop) : Prop where
  path : ∀ file, disk.path = some file →
    file < disk.next ∧ disk.tmp ≠ some file ∧ kept (disk.content file)
  tmp : ∀ file, disk.tmp = some file → file < disk.next

/-- What a file step leaves as it is: the files that the temporary path does not name. -/
structure Disk.Extends (disk next : Disk) : Prop where
  dir : disk.dir = true → next.dir = true
  path : disk.path ≠ none → next.path ≠ none
  files : disk.next ≤ next.next ∧ ∀ file < disk.next, disk.tmp ≠ some file →
    next.content file = disk.content file ∧ next.tmp ≠ some file

def Call.val : Call → Option Content
  | .put val _ => some val
  | .get _ => none

structure Advances (kept : Content → Prop) (disk next : Disk) (act : Act) (call after : Call) : Prop where
  extends_ : disk.Extends next
  sound : next.Sound kept
  fits : after.Fits next kept
  busy : after.busy = true → call.busy = true ∨ act = .truncate
  val : after.val = call.val
  quiet : call.busy = false → act = .truncate ∨
    next.tmp = disk.tmp ∧ next.content = disk.content

theorem Disk.Extends.refl (disk : Disk) : disk.Extends disk :=
  ⟨id, id, le_refl _, fun _ _ apart => ⟨rfl, apart⟩⟩

-- A call that is not busy relies on nothing that a file step of another call changes.
theorem Call.Fits.frame (fits : call.Fits disk kept) (free : call.busy = false)
    (more : disk.Extends next) : call.Fits next kept := by
  cases call with
  | put val stage =>
      cases stage with
      | called => trivial
      | made => exact more.dir fits
      | writing => cases free
      | written => cases free
      | done => exact more.path fits
      | failed => exact fits
  | get stage =>
      cases stage with
      | called => trivial
      | reading file got =>
          obtain ⟨old, apart, whole, part⟩ := fits
          obtain ⟨same, apart'⟩ := more.files.2 file old apart
          exact ⟨old.trans_le more.files.1, apart', same ▸ whole, same ▸ part⟩
      | returned raw =>
          cases raw with
          | none => trivial
          | some raw => exact fits

theorem Call.Fits.frame_busy (fits : call.Fits disk kept) (busy : call.busy = true)
    (named : next.tmp = disk.tmp) (same : next.content = disk.content) : call.Fits next kept := by
  cases call with
  | put val stage =>
      cases stage with
      | writing file offset => exact ⟨named.trans fits.1, fits.2.1, (congrFun same file).trans fits.2.2⟩
      | written =>
          obtain ⟨file, temporary, whole⟩ := fits
          exact ⟨file, named.trans temporary, (congrFun same file).trans whole⟩
      | _ => cases busy
  | get stage => cases busy

theorem overwrite_take {val : Content} {offset : Nat} (count : Nat) (within : offset ≤ val.length) :
    overwrite (val.take offset) offset ((val.drop offset).take count) =
      val.take (offset + ((val.drop offset).take count).length) := by
  have length : (val.take offset).length = offset := by
    rw [List.length_take]
    omega
  have whole : (val.take offset ++ List.replicate (offset - (val.take offset).length) 0).take offset =
      val.take offset := by
    rw [length, Nat.sub_self, List.replicate_zero, List.append_nil, List.take_take, Nat.min_self]
  have rest : (val.take offset).drop (offset + ((val.drop offset).take count).length) = [] := by
    rw [List.drop_eq_nil_iff, length]
    omega
  rw [overwrite, whole, rest, List.append_nil, List.take_add, List.length_take]
  congr 1
  rw [List.take_eq_take_iff]
  omega

theorem temporary_spec {file : Nat} (sound : disk.Sound kept) (named : disk.tmp = some file)
    (content : Content) :
    disk.Extends { disk with content := update disk.content file content } ∧
      Disk.Sound { disk with content := update disk.content file content } kept := by
  have apart : ∀ other, disk.tmp ≠ some other → other ≠ file := by
    rintro other differs rfl
    exact differs named
  refine ⟨⟨id, id, le_refl _, ?_⟩, ⟨?_, sound.tmp⟩⟩
  · intro other _ differs
    exact ⟨Function.update_of_ne (apart other differs) .., differs⟩
  · intro other path
    obtain ⟨old, differs, put⟩ := sound.path other path
    refine ⟨old, differs, ?_⟩
    simp only [Function.update_of_ne (apart other differs)]
    exact put

theorem truncate_spec (sound : disk.Sound kept) :
    disk.Extends disk.truncate.1 ∧ disk.truncate.1.Sound kept ∧
      disk.truncate.1.tmp = some disk.truncate.2 ∧ disk.truncate.1.content disk.truncate.2 = [] := by
  unfold Disk.truncate
  split
  · rename_i file named
    obtain ⟨more, sound⟩ := temporary_spec sound named []
    exact ⟨more, sound, named, Function.update_self ..⟩
  · have apart : ∀ other < disk.next, some disk.next ≠ some other := by
      intro other old same
      have same := Option.some.inj same
      omega
    refine ⟨⟨id, id, Nat.le_succ _, ?_⟩, ⟨?_, ?_⟩, rfl, Function.update_self ..⟩
    · intro other old _
      exact ⟨Function.update_of_ne (Nat.ne_of_lt old) .., apart other old⟩
    · intro other path
      obtain ⟨old, differs, put⟩ := sound.path other path
      refine ⟨Nat.lt_succ_of_lt old, apart other old, ?_⟩
      simp only [Function.update_of_ne (Nat.ne_of_lt old)]
      exact put
    · intro other same
      cases same
      exact Nat.lt_succ_self _

theorem rename_spec {file : Nat} (sound : disk.Sound kept) (named : disk.tmp = some file)
    (put : kept (disk.content file)) :
    disk.Extends { disk with path := some file, tmp := none } ∧
      Disk.Sound { disk with path := some file, tmp := none } kept := by
  refine ⟨⟨id, fun _ => Option.some_ne_none file, le_refl _, ?_⟩, ⟨?_, ?_⟩⟩
  · intro other _ _
    exact ⟨rfl, Option.some_ne_none other ∘ Eq.symm⟩
  · intro other same
    cases same
    exact ⟨sound.tmp file named, Option.some_ne_none file ∘ Eq.symm, put⟩
  · intro other same
    cases same

theorem advance_put {val : Content} {stage : PutStage} (sound : disk.Sound kept)
    (fits : Call.Fits disk kept (.put val stage)) (put : kept val)
    (moved : Call.advance disk (.put val stage) act = some (next, after)) :
    Advances kept disk next act (.put val stage) after := by
  cases stage with
  | called =>
      cases act with
      | mkdir =>
          cases moved
          exact ⟨⟨fun _ => rfl, id, le_refl _, fun _ _ apart => ⟨rfl, apart⟩⟩,
            ⟨sound.path, sound.tmp⟩, rfl, .inl, rfl, fun _ => .inr ⟨rfl, rfl⟩⟩
      | _ => cases moved
  | made =>
      cases act with
      | truncate =>
          have there : disk.dir = true := fits
          obtain ⟨more, sound, named, empty⟩ := truncate_spec sound
          simp only [Call.advance, there, if_true, Option.some.injEq, Prod.mk.injEq] at moved
          obtain ⟨rfl, rfl⟩ := moved
          exact ⟨more, sound, ⟨named, Nat.zero_le _, empty⟩, fun _ => .inr rfl, rfl, fun _ => .inl rfl⟩
      | _ => cases moved
  | writing file offset =>
      obtain ⟨named, within, sofar⟩ := fits
      cases act with
      | write count =>
          cases moved
          obtain ⟨more, sound⟩ := temporary_spec sound named
            (overwrite (disk.content file) offset ((val.drop offset).take count))
          refine ⟨more, sound, ⟨named, ?_, ?_⟩, .inl, rfl, Bool.noConfusion⟩
          · rw [List.length_take, List.length_drop]
            omega
          · rw [← overwrite_take count within, ← sofar]
            exact Function.update_self ..
      | close =>
          simp only [Call.advance, Option.ite_none_right_eq_some, Option.some.injEq,
            Prod.mk.injEq] at moved
          obtain ⟨all, rfl, rfl⟩ := moved
          rw [List.take_of_length_le all] at sofar
          exact ⟨.refl disk, sound, ⟨file, named, sofar⟩, .inl, rfl, Bool.noConfusion⟩
      | _ => cases moved
  | written =>
      obtain ⟨file, named, whole⟩ := fits
      cases act with
      | rename =>
          simp only [Call.advance, named, Option.some.injEq, Prod.mk.injEq] at moved
          obtain ⟨rfl, rfl⟩ := moved
          obtain ⟨more, sound⟩ := rename_spec sound named (whole ▸ put)
          exact ⟨more, sound, Option.some_ne_none file, Bool.noConfusion, rfl, Bool.noConfusion⟩
      | _ => cases moved
  | done => cases act <;> cases moved
  | failed => exact fits.elim

theorem advance_get {stage : GetStage} (sound : disk.Sound kept)
    (fits : Call.Fits disk kept (.get stage))
    (moved : Call.advance disk (.get stage) act = some (next, after)) :
    Advances kept disk next act (.get stage) after := by
  cases stage with
  | called =>
      cases act with
      | openPath =>
          simp only [Call.advance] at moved
          split at moved
          · rename_i file path
            cases moved
            obtain ⟨old, apart, put⟩ := sound.path file path
            exact ⟨.refl disk, sound, ⟨old, apart, put, List.nil_prefix⟩, Bool.noConfusion, rfl,
              fun _ => .inr ⟨rfl, rfl⟩⟩
          · cases moved
            exact ⟨.refl disk, sound, trivial, Bool.noConfusion, rfl, fun _ => .inr ⟨rfl, rfl⟩⟩
      | _ => cases moved
  | reading file got =>
      obtain ⟨old, apart, put, rest, same⟩ := fits
      cases act with
      | read count =>
          cases moved
          refine ⟨.refl disk, sound, ⟨old, apart, put, ?_⟩, Bool.noConfusion, rfl,
            fun _ => .inr ⟨rfl, rfl⟩⟩
          rw [← same, List.drop_left, List.prefix_append_right_inj]
          exact List.take_prefix count rest
      | finish =>
          simp only [Call.advance, Option.ite_none_right_eq_some, Option.some.injEq,
            Prod.mk.injEq] at moved
          obtain ⟨all, rfl, rfl⟩ := moved
          have nothing : rest = [] := by
            rw [← same, List.length_append] at all
            exact List.length_eq_zero_iff.mp (by omega)
          rw [nothing, List.append_nil] at same
          exact ⟨.refl disk, sound, same ▸ put, Bool.noConfusion, rfl, fun _ => .inr ⟨rfl, rfl⟩⟩
      | _ => cases moved
  | returned raw => cases act <;> cases moved

end Step

section Run
variable {state next : State} {event : Event} {events : List Event} {id : Nat} {call : Call}
  {disk : Disk} {kept kept' : Content → Prop}

theorem Call.Fits.mono (more : ∀ val, kept val → kept' val) (fits : call.Fits disk kept) :
    call.Fits disk kept' := by
  cases call with
  | put val stage => cases stage <;> exact fits
  | get stage =>
      cases stage with
      | called => trivial
      | reading file got => exact ⟨fits.1, fits.2.1, more _ fits.2.2.1, fits.2.2.2⟩
      | returned raw =>
          cases raw with
          | none => trivial
          | some raw => exact more raw fits

theorem Disk.Sound.mono (more : ∀ val, kept val → kept' val) (sound : disk.Sound kept) :
    disk.Sound kept' :=
  ⟨fun file path => ⟨(sound.path file path).1, (sound.path file path).2.1,
    more _ (sound.path file path).2.2⟩, sound.tmp⟩

def Call.Begins (call : Call) : Prop := (∃ val, call = .put val .called) ∨ call = .get .called

theorem Call.Begins.fits (begins : call.Begins) : call.Fits disk kept := by
  rcases begins with ⟨val, rfl⟩ | rfl <;> trivial

theorem Call.Begins.free (begins : call.Begins) : call.busy = false := by
  rcases begins with ⟨val, rfl⟩ | rfl <;> rfl

/-- What every state of a run is in whose puts keep apart. -/
structure State.Inv (state : State) : Prop where
  sound : state.disk.Sound state.Put
  fits : ∀ id call, state.calls id = some call → call.Fits state.disk state.Put
  alone : ∀ id first, state.calls id = some first → first.busy = true →
    ∀ other second, state.calls other = some second → second.busy = true → other = id

def State.with (state : State) (disk : Disk) (id : Nat) (call : Call) : State :=
  ⟨disk, update state.calls id (some call)⟩

theorem calls_here : (state.with disk id call).calls id = some call := Function.update_self ..

theorem calls_there {other : Nat} (apart : other ≠ id) :
    (state.with disk id call).calls other = state.calls other := Function.update_of_ne apart ..

theorem put_with (same : ∀ old, state.calls id = some old → call.val = old.val) (val : Content)
    (put : state.Put val) : (state.with disk id call).Put val := by
  obtain ⟨giver, stage, given⟩ := put
  by_cases here : giver = id
  · subst here
    have kept := same _ given
    cases call with
    | put other stage =>
        cases kept
        exact ⟨giver, stage, calls_here⟩
    | get stage => cases kept
  · exact ⟨giver, stage, (calls_there here).trans given⟩

theorem State.Inv.with (inv : state.Inv) (more : state.disk.Extends disk)
    (same : ∀ old, state.calls id = some old → call.val = old.val)
    (sound : disk.Sound state.Put) (fits : call.Fits disk (state.with disk id call).Put)
    (free : ∀ other second, other ≠ id → state.calls other = some second → second.busy = true →
      call.busy = false ∧ disk.tmp = state.disk.tmp ∧ disk.content = state.disk.content) :
    (state.with disk id call).Inv := by
  have grows : ∀ val, state.Put val → (state.with disk id call).Put val := put_with same
  constructor
  case sound => exact sound.mono grows
  case fits =>
    intro other second found
    by_cases moved : other = id
    · subst moved
      rw [calls_here] at found
      cases found
      exact fits
    · rw [calls_there moved] at found
      have old := inv.fits other second found
      cases busy : second.busy with
      | true =>
          obtain ⟨_, named, content⟩ := free other second moved found busy
          exact (old.frame_busy busy named content).mono grows
      | false => exact (old.frame busy more).mono grows
  case alone =>
    intro one first found busy other second found' busy'
    by_cases moved : one = id
    · subst moved
      rw [calls_here] at found
      cases found
      by_contra apart
      rw [calls_there apart] at found'
      rw [(free other second apart found' busy').1] at busy
      cases busy
    · rw [calls_there moved] at found
      by_cases moved' : other = id
      · subst moved'
        rw [calls_here] at found'
        cases found'
        rw [(free one first moved found busy).1] at busy'
        cases busy'
      · rw [calls_there moved'] at found'
        exact inv.alone one first found busy other second found' busy'

theorem advance_spec {act : Act} {after : Call} (inv : state.Inv) (found : state.calls id = some call)
    (moved : call.advance state.disk act = some (disk, after)) :
    Advances state.Put state.disk disk act call after := by
  cases call with
  | put val stage =>
      exact advance_put inv.sound (inv.fits id _ found) ⟨id, stage, found⟩ moved
  | get stage => exact advance_get inv.sound (inv.fits id _ found) moved

theorem step_cases (moved : state.step event = some next) :
    ((∀ id act, event ≠ .act id act) ∧
      ∃ id call, state.calls id = none ∧ call.Begins ∧ next = state.with state.disk id call) ∨
      ∃ id act call disk after, event = .act id act ∧ state.calls id = some call ∧
        call.advance state.disk act = some (disk, after) ∧ next = state.with disk id after := by
  cases event with
  | put id val =>
      rw [State.step] at moved
      split at moved
      · rename_i unused
        cases moved
        exact .inl ⟨fun _ _ => Event.noConfusion, id, _, unused, .inl ⟨val, rfl⟩, rfl⟩
      · cases moved
  | get id =>
      rw [State.step] at moved
      split at moved
      · rename_i unused
        cases moved
        exact .inl ⟨fun _ _ => Event.noConfusion, id, _, unused, .inr rfl, rfl⟩
      · cases moved
  | act id act =>
      rw [State.step] at moved
      split at moved
      · rename_i call found
        obtain ⟨⟨disk, after⟩, advanced, rfl⟩ := Option.map_eq_some_iff.mp moved
        exact .inr ⟨id, act, call, disk, after, rfl, found, advanced, rfl⟩
      · cases moved

theorem inv_step (inv : state.Inv) (apart : ∀ id, event = .act id .truncate → state.Idle)
    (moved : state.step event = some next) : next.Inv := by
  rcases step_cases moved with ⟨_, id, call, unused, begins, rfl⟩ |
    ⟨id, act, call, disk, after, rfl, found, advanced, rfl⟩
  · apply inv.with (.refl state.disk)
    · intro old found
      rw [unused] at found
      cases found
    · exact inv.sound
    · exact begins.fits
    · exact fun _ _ _ _ _ => ⟨begins.free, rfl, rfl⟩
  · have advances := advance_spec inv found advanced
    have same : ∀ old, state.calls id = some old → after.val = old.val := by
      intro old found'
      rw [found] at found'
      cases found'
      exact advances.val
    apply inv.with advances.extends_ same advances.sound
    · exact advances.fits.mono (put_with same)
    · intro other second differs found' busy
      -- Nobody opens the temporary file now, and it is not this call that writes it.
      have opened : act ≠ .truncate := by
        rintro rfl
        have idle := apart id rfl other second found'
        rw [idle] at busy
        cases busy
      have free : call.busy = false := by
        by_contra busy'
        exact differs (inv.alone id call found (by simpa using busy') other second found' busy)
      constructor
      · by_contra busy'
        rcases advances.busy (by simpa using busy') with was | truncate
        · rw [free] at was
          cases was
        · exact opened truncate
      · exact (advances.quiet free).resolve_left opened

theorem inv_run (inv : state.Inv) (apart : state.Apart events) (run : state.run events = some next) :
    next.Inv := by
  induction events generalizing state with
  | nil =>
      cases run
      exact inv
  | cons event rest ih =>
      obtain ⟨middle, moved, run⟩ := Option.bind_eq_some_iff.mp run
      exact ih (inv_step inv apart.1 moved) (apart.2 middle moved) run

theorem State.Fresh.inv (fresh : state.Fresh) : state.Inv := by
  constructor
  case sound =>
    constructor
    · intro file path
      rw [fresh.empty] at path
      cases path
    · exact fresh.left
  case fits =>
    intro id call found
    rw [fresh.idle] at found
    cases found
  case alone =>
    intro id call found
    rw [fresh.idle] at found
    cases found

theorem State.Inv.atomic (inv : state.Inv) : state.Atomic := by
  constructor
  case whole => exact fun id raw found => inv.fits id _ found
  case errorless => exact fun id val found => inv.fits id _ found
  case missing =>
    intro id next moved answer other val done
    have there : state.disk.path ≠ none := inv.fits other _ done
    rcases step_cases moved with ⟨begins, _⟩ | ⟨id, act, call, disk, after, ⟨⟩, found, advanced, rfl⟩
    · exact begins id .openPath rfl
    · rw [calls_here] at answer
      cases answer
      cases call with
      | put val stage => cases stage <;> cases advanced
      | get stage =>
          cases stage with
          | called =>
              simp only [Call.advance] at advanced
              split at advanced
              · cases advanced
              · rename_i missing
                exact there missing
          | reading => cases advanced
          | returned => cases advanced

end Run

section Overlap
variable {state next : State} {event : Event} {events : List Event} {id : Nat} {call after : Call}
  {disk : Disk} {act : Act}

def State.Busy (state : State) (id : Nat) : Prop :=
  ∃ call, state.calls id = some call ∧ call.busy = true

/-- More puts are busy than there are temporary files for them to rename. -/
def State.Crowded (state : State) : Prop :=
  (∃ id, state.Busy id) ∧
    (state.disk.tmp ≠ none → ∃ id other, id ≠ other ∧ state.Busy id ∧ state.Busy other)

def State.Failed (state : State) : Prop := ∃ id val, state.calls id = some (.put val .failed)

theorem advance_busy {left : Disk} (moved : call.advance disk act = some (left, after))
    (kept : ∀ val, after ≠ .put val .failed) :
    (act = .truncate ∧ call.busy = false ∧ after.busy = true ∧ left.tmp ≠ none) ∨
      act ≠ .truncate ∧ ((after.busy = call.busy ∧ left.tmp = disk.tmp) ∨
        (disk.tmp ≠ none ∧ left.tmp = none)) := by
  unfold Call.advance at moved
  split at moved
  · cases moved
    exact .inr ⟨Act.noConfusion, .inl ⟨rfl, rfl⟩⟩
  · split at moved
    · cases moved
      have named : disk.truncate.1.tmp ≠ none := by
        unfold Disk.truncate
        split
        · rename_i file named
          exact named ▸ Option.some_ne_none file
        · exact Option.some_ne_none _
      exact .inl ⟨rfl, rfl, rfl, named⟩
    · cases moved
      exact absurd rfl (kept _)
  · cases moved
    exact .inr ⟨Act.noConfusion, .inl ⟨rfl, rfl⟩⟩
  · split at moved
    · cases moved
      exact .inr ⟨Act.noConfusion, .inl ⟨rfl, rfl⟩⟩
    · cases moved
  · split at moved
    · rename_i file named
      cases moved
      exact .inr ⟨Act.noConfusion, .inr ⟨named ▸ Option.some_ne_none file, rfl⟩⟩
    · cases moved
      exact absurd rfl (kept _)
  · split at moved
    · cases moved
      exact .inr ⟨Act.noConfusion, .inl ⟨rfl, rfl⟩⟩
    · cases moved
      exact .inr ⟨Act.noConfusion, .inl ⟨rfl, rfl⟩⟩
  · cases moved
    exact .inr ⟨Act.noConfusion, .inl ⟨rfl, rfl⟩⟩
  · split at moved
    · cases moved
      exact .inr ⟨Act.noConfusion, .inl ⟨rfl, rfl⟩⟩
    · cases moved
  · cases moved

theorem busy_here : (state.with disk id call).Busy id ↔ call.busy = true := by
  simp [State.Busy, calls_here]

theorem busy_there {other : Nat} (apart : other ≠ id) :
    (state.with disk id call).Busy other ↔ state.Busy other := by
  rw [State.Busy, calls_there apart]
  rfl

theorem failed_step (moved : state.step event = some next) (failed : state.Failed) : next.Failed := by
  obtain ⟨put, val, failed⟩ := failed
  rcases step_cases moved with ⟨_, id, call, unused, _, rfl⟩ |
    ⟨id, act, call, disk, after, _, found, advanced, rfl⟩
  · have apart : put ≠ id := by
      rintro rfl
      rw [unused] at failed
      cases failed
    exact ⟨put, val, (calls_there apart).trans failed⟩
  · have apart : put ≠ id := by
      rintro rfl
      rw [failed] at found
      cases found
      cases act <;> cases advanced
    exact ⟨put, val, (calls_there apart).trans failed⟩

theorem crowded_step (moved : state.step event = some next) (kept : ¬ next.Failed)
    (crowded : state.Crowded) : next.Crowded := by
  obtain ⟨⟨one, busy⟩, pair⟩ := crowded
  rcases step_cases moved with ⟨_, id, call, unused, begins, rfl⟩ |
    ⟨id, act, call, disk, after, _, found, advanced, rfl⟩
  · have same : ∀ other, state.Busy other → (state.with state.disk id call).Busy other := by
      intro other busy
      refine (busy_there ?_).mpr busy
      rintro rfl
      obtain ⟨call, found, _⟩ := busy
      rw [unused] at found
      cases found
    refine ⟨⟨one, same one busy⟩, ?_⟩
    intro named
    obtain ⟨first, second, apart, busy, busy'⟩ := pair named
    exact ⟨first, second, apart, same first busy, same second busy'⟩
  · have kept : ∀ val, after ≠ .put val .failed := by
      rintro val rfl
      exact kept ⟨id, val, calls_here⟩
    have was : state.Busy id ↔ call.busy = true := by simp [State.Busy, found]
    rcases advance_busy advanced kept with ⟨rfl, free, busy', _⟩ | ⟨_, ⟨same, named⟩ | ⟨named, gone⟩⟩
    · -- Another put opens the file: it is busy now beside the one that was.
      have apart : one ≠ id := by
        rintro rfl
        rw [was, free] at busy
        cases busy
      have here : (state.with disk id after).Busy id := busy_here.mpr busy'
      exact ⟨⟨id, here⟩, fun _ => ⟨one, id, apart, (busy_there apart).mpr busy, here⟩⟩
    · have same : ∀ other, (state.with disk id after).Busy other ↔ state.Busy other := by
        intro other
        by_cases here : other = id
        · subst here
          rw [busy_here, was, same]
        · exact busy_there here
      simp only [State.Crowded, same]
      exact ⟨⟨one, busy⟩, fun there => pair (named ▸ there)⟩
    · -- One of the two ends with the rename, the other has no file left.
      obtain ⟨first, second, apart, busy, busy'⟩ := pair named
      refine ⟨?_, fun there => absurd gone there⟩
      by_cases here : first = id
      · have other : second ≠ id := fun same => apart (here.trans same.symm)
        exact ⟨second, (busy_there other).mpr busy'⟩
      · exact ⟨first, (busy_there here).mpr busy⟩

theorem failed_run (run : state.run events = some next) (failed : state.Failed) : next.Failed := by
  induction events generalizing state with
  | nil =>
      cases run
      exact failed
  | cons event rest ih =>
      obtain ⟨middle, moved, run⟩ := Option.bind_eq_some_iff.mp run
      exact ih run (failed_step moved failed)

theorem crowded_run (run : state.run events = some next) (kept : ¬ next.Failed)
    (crowded : state.Crowded) : next.Crowded := by
  induction events generalizing state with
  | nil =>
      cases run
      exact crowded
  | cons event rest ih =>
      obtain ⟨middle, moved, run⟩ := Option.bind_eq_some_iff.mp run
      exact ih run (crowded_step moved (fun failed => kept (failed_run run failed)) crowded)

-- The open of the temporary file beside a busy put leaves one file for two renames.
theorem crowded_of_overlap (moved : state.step (.act id .truncate) = some next)
    (kept : ¬ next.Failed) {other : Nat} (busy : state.Busy other) : next.Crowded := by
  rcases step_cases moved with ⟨begins, _⟩ | ⟨id, act, call, disk, after, ⟨⟩, found, advanced, rfl⟩
  · exact absurd rfl (begins id .truncate)
  · have kept : ∀ val, after ≠ .put val .failed := by
      rintro val rfl
      exact kept ⟨id, val, calls_here⟩
    rcases advance_busy advanced kept with ⟨_, free, busy', _⟩ | ⟨opens, _⟩
    · have apart : other ≠ id := by
        rintro rfl
        obtain ⟨call, found', busy⟩ := busy
        rw [found] at found'
        cases found'
        rw [free] at busy
        cases busy
      have here : (state.with disk id after).Busy id := busy_here.mpr busy'
      exact ⟨⟨id, here⟩, fun _ => ⟨other, id, apart, (busy_there apart).mpr busy, here⟩⟩
    · exact absurd rfl opens

theorem apart_of_atomic (run : state.run events = some next) (finished : next.Idle)
    (kept : ¬ next.Failed) : state.Apart events := by
  induction events generalizing state with
  | nil => trivial
  | cons event rest ih =>
      obtain ⟨middle, moved, later⟩ := Option.bind_eq_some_iff.mp run
      constructor
      · rintro id rfl other call found
        by_contra busy
        have crowded := crowded_of_overlap moved (fun failed => kept (failed_run later failed))
          ⟨call, found, by simpa using busy⟩
        obtain ⟨⟨last, call, found, busy⟩, _⟩ := crowded_run later kept crowded
        rw [finished last call found] at busy
        cases busy
      · intro other moved'
        rw [moved] at moved'
        cases moved'
        exact ih later

end Overlap

/-- A run whose puts keep apart is atomic in every state that it reaches, and a run whose puts
have all finished is atomic only if they kept apart. -/
theorem store_atomic (state next : State) (events : List Event) (fresh : state.Fresh)
    (run : state.run events = some next) :
    (state.Apart events → next.Atomic) ∧ (next.Idle → next.Atomic → state.Apart events) := by
  constructor
  · intro apart
    exact (inv_run fresh.inv apart run).atomic
  · intro finished atomic
    exact apart_of_atomic run finished fun ⟨id, val, failed⟩ => atomic.errorless id val failed

/-- A store in a new directory. -/
def emptyStore : State := ⟨⟨false, none, none, fun _ => [], 0⟩, fun _ => none⟩

theorem emptyStore_fresh : emptyStore.Fresh := ⟨fun _ => rfl, rfl, fun _ named => nomatch named⟩

/-- A put of two bytes, and a get of them. -/
def alone : List Event :=
  [.put 0 [49, 50], .act 0 .mkdir, .act 0 .truncate, .act 0 (.write 1), .act 0 (.write 1),
    .act 0 .close, .act 0 .rename, .get 1, .act 1 .openPath, .act 1 (.read 2), .act 1 .finish]

theorem apart_cons {state next : State} {event : Event} {rest : List Event}
    (free : ∀ id, event = .act id .truncate → state.Idle) (moved : state.step event = some next)
    (later : next.Apart rest) : state.Apart (event :: rest) := by
  refine ⟨free, ?_⟩
  intro other moved'
  rw [moved] at moved'
  cases moved'
  exact later

theorem alone_apart : emptyStore.Apart alone := by
  iterate 2 refine apart_cons (fun _ => by rintro ⟨⟩) rfl ?_
  -- The temporary file is opened by the one call that there is.
  refine apart_cons ?_ rfl ?_
  · intro id _ other call found
    by_cases here : other = 0
    · subst here
      cases found
      rfl
    · simp [emptyStore, Function.update_of_ne here] at found
  iterate 8 refine apart_cons (fun _ => by rintro ⟨⟩) rfl ?_
  trivial

theorem store_atomic_alone : ∃ next, emptyStore.run alone = some next ∧
    next.calls 1 = some (.get (.returned (some [49, 50]))) ∧ next.Atomic :=
  ⟨_, rfl, rfl, (store_atomic emptyStore _ alone emptyStore_fresh rfl).1 alone_apart⟩

/-- The second put empties the file that the first one has written, the first publishes it, a get
reads it, and the rename of the second finds nothing. -/
def torn : List Event :=
  [.put 0 [49, 50], .put 1 [51], .act 0 .mkdir, .act 1 .mkdir, .act 0 .truncate, .act 0 (.write 2),
    .act 0 .close, .act 1 .truncate, .act 0 .rename, .get 2, .act 2 .openPath, .act 2 .finish,
    .act 1 (.write 1), .act 1 .close, .act 1 .rename]

theorem store_torn : ∃ next, emptyStore.run torn = some next ∧
    next.calls 2 = some (.get (.returned (some []))) ∧ next.calls 1 = some (.put [51] .failed) ∧
    ¬ ∀ state events next, State.Fresh state → state.run events = some next → next.Atomic := by
  refine ⟨_, rfl, rfl, rfl, ?_⟩
  intro atomic
  exact (atomic emptyStore torn _ emptyStore_fresh rfl).errorless 1 [51] rfl

end Relay.FileStore
