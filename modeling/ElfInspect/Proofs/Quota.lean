import ElfInspect.Proofs.Delivery
import ElfInspect.Record.FileHeader
import ElfInspect.Record.SectionHeader
import Mathlib.Tactic.ByContra

namespace ElfInspect

/-!
# Devices that stop answering

A device may answer only so many calls of each kind.  A decoder that meets such a device goes on as
with a device that answers every call, until the first call that is beyond the quota.  Then it stops
with a cause that wraps the refusal.

* `Quota`, `Quota.Covers`, `Quota.FirstBeyond` — what a device still answers, whether it answers all
  of some calls, and the first call that it does not;
* `Account m d r made d'` — from `d`, which answers every call, `m` makes the calls `made` and ends
  with `r` in `d'`; and from a device like `d` with a quota it comes to the same, as far as the
  quota covers these calls;
* `Accountable m` — there is such an account from every device that answers every call.  All
  decoders have one: those of single calls, and what `bind`, `mapM` and other loops make of them;
* `Answers act call` — what single calls have in common, and `Answers.accountable`, how a decoder
  comes from one.
-/

variable {α β : Type}

/-! ### Quotas -/

/-- How many more calls of each kind are answered, if that is bounded. -/
structure Quota where
  reads : Option Nat
  seeks : Option Nat
  deriving Repr, DecidableEq

/-- The number of reads among some calls. -/
def Call.readCount (calls : List Call) : Nat :=
  calls.countP fun | .read _ => true | .seek _ => false

/-- The number of seeks among some calls. -/
def Call.seekCount (calls : List Call) : Nat :=
  calls.countP fun | .read _ => false | .seek _ => true

@[simp] theorem Call.readCount_append (made later : List Call) :
    readCount (made ++ later) = readCount made + readCount later := by
  simp [readCount]

@[simp] theorem Call.seekCount_append (made later : List Call) :
    seekCount (made ++ later) = seekCount made + seekCount later := by
  simp [seekCount]

@[simp] theorem Call.readCount_reverse (made : List Call) :
    readCount made.reverse = readCount made := by
  simp [readCount]

@[simp] theorem Call.seekCount_reverse (made : List Call) :
    seekCount made.reverse = seekCount made := by
  simp [seekCount]

namespace Quota

variable {q : Quota} {made later : List Call} {call : Call}

/-- All of some calls are answered. -/
def Covers (q : Quota) (calls : List Call) : Prop :=
  (∀ r, q.reads = some r → Call.readCount calls ≤ r) ∧
    ∀ s, q.seeks = some s → Call.seekCount calls ≤ s

/-- What is left of a quota after some calls. -/
def after (q : Quota) (calls : List Call) : Quota :=
  ⟨q.reads.map (· - Call.readCount calls), q.seeks.map (· - Call.seekCount calls)⟩

/-- The first of some calls that is not answered. -/
def FirstBeyond (q : Quota) (calls : List Call) (call : Call) : Prop :=
  ∃ before rest, calls = before ++ call :: rest ∧ q.Covers before ∧ ¬ q.Covers (before ++ [call])

@[simp] theorem covers_nil (q : Quota) : q.Covers [] :=
  ⟨fun _ _ => Nat.zero_le _, fun _ _ => Nat.zero_le _⟩

@[simp] theorem after_nil (q : Quota) : q.after [] = q := by
  rcases q with ⟨_ | r, _ | s⟩ <;> rfl

/-- What is left after some calls and then others is what those leave of what these leave. -/
theorem after_append : q.after (made ++ later) = (q.after made).after later := by
  rcases q with ⟨_ | r, _ | s⟩ <;> simp [after, Nat.sub_sub]

/-- Some calls and then others are answered if these are with what is left after those. -/
theorem covers_append : q.Covers (made ++ later) ↔ q.Covers made ∧ (q.after made).Covers later := by
  rcases q with ⟨_ | r, _ | s⟩ <;>
    simp only [Covers, after, Call.readCount_append, Call.seekCount_append, Option.map_some,
      Option.map_none, Option.some.injEq, reduceCtorEq, forall_eq', false_implies, implies_true,
      true_and, and_true] <;>
    omega

/-- Calls behind the first one beyond the quota make no difference. -/
theorem FirstBeyond.append_right (h : q.FirstBeyond made call) (later : List Call) :
    q.FirstBeyond (made ++ later) call := by
  obtain ⟨before, rest, rfl, hbefore, hcall⟩ := h
  exact ⟨before, rest ++ later, by simp, hbefore, hcall⟩

/-- Calls before it that are all answered use up a part of the quota. -/
theorem FirstBeyond.append_left (hmade : q.Covers made)
    (h : (q.after made).FirstBeyond later call) : q.FirstBeyond (made ++ later) call := by
  obtain ⟨before, rest, rfl, hbefore, hcall⟩ := h
  refine ⟨made ++ before, rest, by simp, covers_append.mpr ⟨hmade, hbefore⟩, ?_⟩
  rw [List.append_assoc, covers_append]
  exact fun hcovers => hcall hcovers.2

/-- A single call that is not answered is the first one. -/
theorem firstBeyond_singleton (h : ¬ q.Covers [call]) : q.FirstBeyond [call] call :=
  ⟨[], [], rfl, covers_nil q, h⟩

end Quota

/-! ### Devices with a quota -/

namespace Device

/-- The device answers every call. -/
structure Unlimited (d : Device) : Prop where
  reads : d.readsLeft = none
  seeks : d.seeksLeft = none

/-- A device that answers what is in the quota. -/
def limited (d : Device) (q : Quota) : Device :=
  { d with readsLeft := q.reads, seeksLeft := q.seeks }

/-- A device in memory that fails is one with a quota. -/
theorem failing_eq (content : Bytes) (reads seeks : Option Nat) :
    failing content reads seeks = (ofBytes content).limited ⟨reads, seeks⟩ := rfl

theorem unlimited_ofBytes (content : Bytes) : (ofBytes content).Unlimited := ⟨rfl, rfl⟩

theorem readCount_eq (d : Device) : d.readCount = Call.readCount d.calls := rfl
theorem seekCount_eq (d : Device) : d.seekCount = Call.seekCount d.calls := rfl

end Device

/-- How a call is refused. -/
def Call.refusal : Call → Fault
  | .read _ => .readRefused
  | .seek _ => .seekRefused

/-- The cause is that the device failed in a certain way. -/
inductive DecodeError.Wraps (fault : Fault) : DecodeError → Prop
  | read (size : Nat) : Wraps fault (.readFailed size fault)
  | content (offset : Int) : Wraps fault (.contentReadFailed offset fault)
  | seek (offset : Int) : Wraps fault (.seekFailed offset fault)

/-- The wording of the cause ends in that of the fault. -/
theorem DecodeError.Wraps.message_eq {fault : Fault} {cause : DecodeError} (h : cause.Wraps fault) :
    ∃ head, cause.message = head ++ fault.message := by
  cases h with
  | read size => exact ⟨s!"Read of {size} bytes failed: ", rfl⟩
  | content offset =>
    exact ⟨s!"Read of section content at {hexSigned offset} failed: ", rfl⟩
  | seek offset => exact ⟨s!"Seek to offset {hexSigned offset} failed: ", rfl⟩

/-- A device that fails is a fault of the input, and not of the request. -/
theorem DecodeError.Wraps.isInputFault {fault : Fault} {cause : DecodeError}
    (h : cause.Wraps fault) : cause.isInputFault = true := by
  cases h <;> rfl

/-- A device that fails is not one that has ended. -/
theorem DecodeError.Wraps.isTruncated {fault : Fault} {cause : DecodeError}
    (h : cause.Wraps fault) : cause.isTruncated = false := by
  cases h <;> rfl

/-! ### Accounts -/

/-- From `d`, which answers every call, `m` makes the calls `made` and ends with `r` in `d'`.  With
    a quota that covers these calls it comes to the same; otherwise it stops at the first call
    beyond the quota. -/
structure Account (m : Decode α) (d : Device) (r : Except DecodeError α) (made : List Call)
    (d' : Device) : Prop where
  run : m d = ending r d'
  unlimited : d'.Unlimited
  calls : d'.calls = made.reverse ++ d.calls
  covered : ∀ q : Quota, q.Covers made → ∃ d'', m (d.limited q) = ending r d'' ∧
    ∀ a, r = .ok a → d'' = d'.limited (q.after made)
  beyond : ∀ q : Quota, ¬ q.Covers made → ∃ call, q.FirstBeyond made call ∧
    ∃ cause d'', m (d.limited q) = .error cause d'' ∧ cause.Wraps call.refusal

/-- There is an account from every device that answers every call. -/
def Accountable (m : Decode α) : Prop :=
  ∀ d : Device, d.Unlimited → ∃ r made d', Account m d r made d'

namespace Account

variable {m : Decode α} {f : α → Decode β} {d d' d'' : Device} {r : Except DecodeError β}
  {made later : List Call} {a : α}

/-- A value takes no calls. -/
theorem pure (hd : d.Unlimited) (a : α) : Account (Pure.pure a) d (.ok a) [] d where
  run := rfl
  unlimited := hd
  calls := rfl
  covered q _ := ⟨d.limited q, rfl, fun _ _ => by rw [Quota.after_nil]⟩
  beyond q h := absurd (Quota.covers_nil q) h

/-- Nor does a cause that is thrown. -/
theorem throw (hd : d.Unlimited) (e : DecodeError) :
    Account (α := α) (MonadExcept.throw e) d (.error e) [] d where
  run := rfl
  unlimited := hd
  calls := rfl
  covered q _ := ⟨d.limited q, rfl, nofun⟩
  beyond q h := absurd (Quota.covers_nil q) h

/-- **Sequencing.**  The calls of the second part follow those of the first. -/
theorem bind (hm : Account m d (.ok a) made d') (hf : Account (f a) d' r later d'') :
    Account (m >>= f) d r (made ++ later) d'' where
  run := (bind_of_ending_ok hm.run).trans hf.run
  unlimited := hf.unlimited
  calls := by rw [hf.calls, hm.calls, List.reverse_append, List.append_assoc]
  covered q hq := by
    obtain ⟨hmade, hlater⟩ := Quota.covers_append.mp hq
    obtain ⟨e, hrun, hnext⟩ := hm.covered q hmade
    obtain ⟨e', hrun', hnext'⟩ := hf.covered (q.after made) hlater
    rw [← hnext a rfl] at hrun'
    exact ⟨e', (bind_of_ending_ok hrun).trans hrun', fun b hb => Quota.after_append ▸ hnext' b hb⟩
  beyond q hq := by
    by_cases hmade : q.Covers made
    · -- the first part goes through, and the refused call is one of the second
      have hlater : ¬ (q.after made).Covers later :=
        fun hlater => hq (Quota.covers_append.mpr ⟨hmade, hlater⟩)
      obtain ⟨e, hrun, hnext⟩ := hm.covered q hmade
      obtain ⟨call, hcall, cause, e', hrun', hcause⟩ := hf.beyond (q.after made) hlater
      rw [← hnext a rfl] at hrun'
      refine ⟨call, .append_left hmade hcall, cause, e', ?_, hcause⟩
      exact (bind_of_ending_ok hrun).trans hrun'
    · obtain ⟨call, hcall, cause, e, hrun, hcause⟩ := hm.beyond q hmade
      exact ⟨call, hcall.append_right later, cause, e, bind_of_ending_error hrun, hcause⟩

/-- A part that stops with a cause ends the whole. -/
theorem bind_error {e : DecodeError} (hm : Account m d (.error e) made d') :
    Account (m >>= f) d (.error e) made d' where
  run := bind_of_ending_error hm.run
  unlimited := hm.unlimited
  calls := hm.calls
  covered q hq := by
    obtain ⟨e', hrun, -⟩ := hm.covered q hq
    exact ⟨e', bind_of_ending_error hrun, nofun⟩
  beyond q hq := by
    obtain ⟨call, hcall, cause, e', hrun, hcause⟩ := hm.beyond q hq
    exact ⟨call, hcall, cause, e', bind_of_ending_error hrun, hcause⟩

end Account

/-! ### Single calls -/

namespace Quota

variable {q : Quota}

/-- A read is answered unless no reads are left. -/
theorem covers_read_iff {size : Nat} : q.Covers [.read size] ↔ q.reads ≠ some 0 := by
  rcases q with ⟨_ | _ | r, _ | s⟩ <;> simp [Covers, Call.readCount, Call.seekCount]

/-- A seek is answered unless no seeks are left. -/
theorem covers_seek_iff {offset : Int} : q.Covers [.seek offset] ↔ q.seeks ≠ some 0 := by
  rcases q with ⟨_ | r, _ | _ | s⟩ <;> simp [Covers, Call.readCount, Call.seekCount]

/-- A read uses up one of the reads. -/
theorem after_read (size : Nat) : q.after [.read size] = ⟨q.reads.map (· - 1), q.seeks⟩ := by
  rcases q with ⟨_ | r, _ | s⟩ <;> rfl

/-- A seek uses up one of the seeks. -/
theorem after_seek (offset : Int) : q.after [.seek offset] = ⟨q.reads, q.seeks.map (· - 1)⟩ := by
  rcases q with ⟨_ | r, _ | s⟩ <;> rfl

end Quota

namespace Device

variable {d : Device} {q : Quota}

/-- A read of a size that the medium cannot represent uses up nothing of the quota. -/
theorem read_of_sizeFault (hreads : d.readsLeft ≠ some 0) {size : Nat} {fault : Fault}
    (h : d.medium.sizeFault? size = some fault) :
    d.read size = (.error fault, { d with calls := .read size :: d.calls }) := by
  simp only [read, if_neg hreads, h]

/-- A read that is answered uses up one of the reads that are left. -/
theorem read_of_granted (hreads : d.readsLeft ≠ some 0) {size : Nat}
    (h : d.medium.sizeFault? size = none) :
    d.read size = (.ok (d.slice d.pace.next.1 size),
      { d with calls := .read size :: d.calls
               position := d.position + (d.slice d.pace.next.1 size).size
               pace := d.pace.next.2
               readsLeft := d.readsLeft.map (· - 1) }) := by
  simp only [read, if_neg hreads, h]
  rfl

/-- A seek that the medium cannot represent uses up nothing of the quota. -/
theorem seek_of_offsetFault (hseeks : d.seeksLeft ≠ some 0) {offset : Int} {fault : Fault}
    (h : d.medium.offsetFault? offset = some fault) :
    d.seek offset = (.error fault, { d with calls := .seek offset :: d.calls }) := by
  simp only [seek, if_neg hseeks, h]

/-- A seek that is answered uses up one of the seeks that are left. -/
theorem seek_of_reachable (hseeks : d.seeksLeft ≠ some 0) {offset : Int}
    (h : d.medium.offsetFault? offset = none) :
    d.seek offset = (.ok (), { d with calls := .seek offset :: d.calls
                                      position := offset.toNat
                                      seeksLeft := d.seeksLeft.map (· - 1) }) := by
  simp only [seek, if_neg hseeks, h]

end Device

/-- A call on devices is recorded, a quota that covers it makes no difference to its answer, and any
    other quota lets it be refused. -/
structure Answers (act : Device → Except Fault β × Device) (call : Call) : Prop where
  answered : ∀ d : Device, d.Unlimited →
    (act d).2.Unlimited ∧ (act d).2.calls = call :: d.calls ∧
      ∀ q : Quota, q.Covers [call] → ∃ d', act (d.limited q) = ((act d).1, d') ∧
        ∀ b, (act d).1 = .ok b → d' = (act d).2.limited (q.after [call])
  refused : ∀ (d : Device) (q : Quota), ¬ q.Covers [call] →
    ∃ d', act (d.limited q) = (.error call.refusal, d')

/-- Reads differ on devices with a quota by their refusal only. -/
theorem Device.answers_read (size : Nat) : Answers (·.read size) (.read size) := by
  refine ⟨fun d hd => ?_, fun d q hq => ?_⟩
  · have hreads : d.readsLeft ≠ some 0 := by simp [hd.reads]
    cases hsize : d.medium.sizeFault? size with
    | some fault =>
      rw [read_of_sizeFault hreads hsize]
      refine ⟨⟨hd.reads, hd.seeks⟩, rfl, fun q hq => ?_⟩
      exact ⟨_, read_of_sizeFault (Quota.covers_read_iff.mp hq) hsize, nofun⟩
    | none =>
      rw [read_of_granted hreads hsize]
      refine ⟨⟨by rw [hd.reads]; rfl, hd.seeks⟩, rfl, fun q hq => ?_⟩
      refine ⟨_, read_of_granted (Quota.covers_read_iff.mp hq) hsize, fun _ _ => ?_⟩
      rw [Quota.after_read]
      rfl
  -- no reads are left, since the quota does not cover one
  · have hzero : (d.limited q).readsLeft = some 0 := by
      by_contra hne
      exact hq (Quota.covers_read_iff.mpr hne)
    simp only [read, if_pos hzero]
    exact ⟨_, rfl⟩

/-- Seeks differ on devices with a quota by their refusal only. -/
theorem Device.answers_seek (offset : Int) : Answers (·.seek offset) (.seek offset) := by
  refine ⟨fun d hd => ?_, fun d q hq => ?_⟩
  · have hseeks : d.seeksLeft ≠ some 0 := by simp [hd.seeks]
    cases hoffset : d.medium.offsetFault? offset with
    | some fault =>
      rw [seek_of_offsetFault hseeks hoffset]
      refine ⟨⟨hd.reads, hd.seeks⟩, rfl, fun q hq => ?_⟩
      exact ⟨_, seek_of_offsetFault (Quota.covers_seek_iff.mp hq) hoffset, nofun⟩
    | none =>
      rw [seek_of_reachable hseeks hoffset]
      refine ⟨⟨hd.reads, by rw [hd.seeks]; rfl⟩, rfl, fun q hq => ?_⟩
      refine ⟨_, seek_of_reachable (Quota.covers_seek_iff.mp hq) hoffset, fun _ _ => ?_⟩
      rw [Quota.after_seek]
      rfl
  -- no seeks are left, since the quota does not cover one
  · have hzero : (d.limited q).seeksLeft = some 0 := by
      by_contra hne
      exact hq (Quota.covers_seek_iff.mpr hne)
    simp only [seek, if_pos hzero]
    exact ⟨_, rfl⟩

/-- A decoder that makes one call and reports its answer. -/
def reporting (act : Device → Except Fault β × Device)
    (report : Except Fault β → Except DecodeError α) : Decode α := fun d =>
  ending (report (act d).1) (act d).2

/-- A decoder of one call, which wraps a refusal and makes no fault a value. -/
theorem Answers.accountable {act : Device → Except Fault β × Device} {call : Call}
    {report : Except Fault β → Except DecodeError α} (h : Answers act call)
    (hrefusal : ∃ cause, report (.error call.refusal) = .error cause ∧ cause.Wraps call.refusal)
    (hfault : ∀ fault a, report (.error fault) ≠ .ok a) : Accountable (reporting act report) := by
  intro d hd
  obtain ⟨hd', hcalls, hcovered⟩ := h.answered d hd
  refine ⟨report (act d).1, [call], (act d).2, rfl, hd', hcalls, fun q hq => ?_, fun q hq => ?_⟩
  · obtain ⟨d', hact, hnext⟩ := hcovered q hq
    refine ⟨d', by rw [reporting, hact], fun a ha => ?_⟩
    -- a value is the answer to the call, since no fault is made one
    cases hr : (act d).1 with
    | ok b => exact hnext b hr
    | error fault =>
      rw [hr] at ha
      exact absurd ha (hfault fault a)
  · obtain ⟨d', hact⟩ := h.refused d q hq
    obtain ⟨cause, hcause, hwraps⟩ := hrefusal
    refine ⟨call, Quota.firstBeyond_singleton hq, cause, d', ?_, hwraps⟩
    rw [reporting, hact, hcause, ending_error]

/-- What a loop of reads makes of one of them. -/
def reported (onFault : Fault → DecodeError) : Except Fault Bytes → Except DecodeError Bytes
  | .ok bytes => .ok bytes
  | .error .sizeTooWide => .error (.misuse .readSize)
  | .error .noRoom => .error (.misuse .noRoom)
  | .error fault => .error (onFault fault)

/-- The seek of a decoder is one call with its report. -/
theorem seekTo_eq (offset : Int) :
    seekTo offset = reporting (·.seek offset) (Except.mapError (.seekFailed offset)) := by
  funext d
  show seekTo offset d = ending ((d.seek offset).1.mapError _) (d.seek offset).2
  unfold seekTo
  rcases d.seek offset with ⟨fault | u, d'⟩ <;> rfl

/-- One read of a loop of reads. -/
def request (onFault : Fault → DecodeError) (size : Nat) : Decode Bytes :=
  reporting (·.read size) (reported onFault)

/-- What follows one read of a loop of reads: the loop goes on, unless nothing has arrived. -/
def goOn (most : Option Nat) (onFault : Fault → DecodeError) (wanted : Nat)
    (buffer bytes : Bytes) : Decode Bytes := fun d =>
  if bytes.size = 0 then .error (.truncated wanted buffer.size) d
  else accumulate most onFault wanted (buffer ++ bytes) d

/-- A loop of reads that misses something is one read with what follows it. -/
theorem accumulate_eq_bind {most : Option Nat} {onFault : Fault → DecodeError} {wanted : Nat}
    {buffer : Bytes} (h : buffer.size < wanted) :
    accumulate most onFault wanted buffer =
      request onFault (requestSize most (wanted - buffer.size)) >>=
        goOn most onFault wanted buffer := by
  funext d
  rw [accumulate_of_lt h]
  show _ = EStateM.bind _ _ d
  simp only [EStateM.bind, request, reporting]
  rcases d.read (requestSize most (wanted - buffer.size)) with ⟨fault | bytes, d'⟩
  · cases fault <;> rfl
  · rfl

/-- What holds of a loop of reads that is over, of one that stops because the input has ended, and
    of one read with what follows it if it holds of that, holds of every loop of reads. -/
theorem accumulate_rec {most : Option Nat} {onFault : Fault → DecodeError} {wanted : Nat}
    {P : Decode Bytes → Prop} (hdone : ∀ buffer : Bytes, wanted ≤ buffer.size → P (pure buffer))
    (hend : ∀ got, P (throw (.truncated wanted got)))
    (hread : ∀ buffer : Bytes, buffer.size < wanted → ∀ f : Bytes → Decode Bytes,
      (∀ bytes, P (f bytes)) →
      P (request onFault (requestSize most (wanted - buffer.size)) >>= f)) (buffer : Bytes) :
    P (accumulate most onFault wanted buffer) := by
  -- each round trip brings at least one byte, so that the missing ones decrease
  induction hk : wanted - buffer.size using Nat.strongRecOn generalizing buffer with
  | ind k ih =>
    by_cases hlt : buffer.size < wanted
    · rw [accumulate_eq_bind hlt]
      refine hread buffer hlt _ fun bytes => ?_
      by_cases hbytes : bytes.size = 0
      · have hstop : goOn most onFault wanted buffer bytes =
            throw (.truncated wanted buffer.size) := funext fun d => if_pos hbytes
        rw [hstop]
        exact hend _
      · have hmore : goOn most onFault wanted buffer bytes =
            accumulate most onFault wanted (buffer ++ bytes) := funext fun d => if_neg hbytes
        rw [hmore]
        refine ih _ ?_ (buffer ++ bytes) rfl
        rw [Array.size_append]
        omega
    · have hover : accumulate most onFault wanted buffer = (pure buffer : Decode Bytes) :=
        funext fun d => accumulate_of_le (by omega)
      rw [hover]
      exact hdone buffer (by omega)

namespace Accountable

variable {m : Decode α} {f : α → Decode β}

theorem pure (a : α) : Accountable (Pure.pure a) :=
  fun d hd => ⟨_, _, d, .pure hd a⟩

theorem throw (e : DecodeError) : Accountable (α := α) (MonadExcept.throw e) :=
  fun d hd => ⟨_, _, d, .throw hd e⟩

/-- Decoders one after another. -/
theorem bind (hm : Accountable m) (hf : ∀ a, Accountable (f a)) : Accountable (m >>= f) := by
  intro d hd
  obtain ⟨r, made, d', haccount⟩ := hm d hd
  cases r with
  | ok a =>
    obtain ⟨r, later, d'', haccount'⟩ := hf a d' haccount.unlimited
    exact ⟨r, made ++ later, d'', haccount.bind haccount'⟩
  | error e => exact ⟨.error e, made, d', haccount.bind_error⟩

theorem map (hm : Accountable m) (g : α → β) : Accountable (g <$> m) := by
  rw [map_eq_pure_bind]
  exact hm.bind fun a => pure (g a)

/-- A loop over a list. -/
theorem mapM {f : β → Decode α} (items : List β) (h : ∀ x ∈ items, Accountable (f x)) :
    Accountable (items.mapM f) := by
  induction items with
  | nil => exact pure []
  | cons x items ih =>
    rw [List.mapM_cons]
    refine bind (h x List.mem_cons_self) fun a => ?_
    exact bind (ih fun y hy => h y (List.mem_cons_of_mem x hy)) fun as => pure (a :: as)

/-- Records one after another. -/
theorem repeatDecodeFrom (hm : Accountable m) (count : Nat) (done : Array α) :
    Accountable (ElfInspect.repeatDecodeFrom m count done) := by
  induction count generalizing done with
  | zero => exact pure done
  | succ count ih =>
    rw [repeatDecodeFrom_succ]
    exact bind hm fun record => ih (done.push record)

/-- One read of a loop; what wraps its fault tells that the device has failed. -/
theorem request {onFault : Fault → DecodeError} (h : ∀ fault, (onFault fault).Wraps fault)
    (size : Nat) : Accountable (ElfInspect.request onFault size) := by
  refine (Device.answers_read size).accountable ⟨onFault .readRefused, rfl, h _⟩ ?_
  intro fault bytes
  cases fault <;> nofun

/-- A loop of reads is made of single ones, so that nothing has to be said of its rounds again. -/
theorem accumulate {most : Option Nat} {onFault : Fault → DecodeError}
    (h : ∀ fault, (onFault fault).Wraps fault) (wanted : Nat) (buffer : Bytes) :
    Accountable (ElfInspect.accumulate most onFault wanted buffer) :=
  accumulate_rec (fun buffer _ => pure buffer) (fun _ => throw _)
    (fun _ _ _ hf => bind (request h _) hf) buffer

theorem readExact (size : Nat) : Accountable (ElfInspect.readExact size) :=
  accumulate (fun _ => .read size) size #[]

theorem seekTo (offset : Int) : Accountable (ElfInspect.seekTo offset) := by
  rw [seekTo_eq]
  exact (Device.answers_seek offset).accountable ⟨_, rfl, .seek offset⟩ nofun

/-! ### Records, tables and contents -/

theorem readLayout (layout : Layout α) (order : ByteOrder) (start : α) :
    Accountable (layout.read order start) := by
  induction layout generalizing start with
  | nil => exact pure start
  | cons slot rest ih =>
    refine bind (bind (readExact slot.width) fun bytes => pure _) fun value => ?_
    exact ih (slot.set value start)

theorem readTable {step : Decode α} (hstep : Accountable step) (offset : Int) (count : Nat) :
    Accountable (ElfInspect.readTable offset count step) :=
  bind (seekTo offset) fun _ =>
    bind (repeatDecodeFrom hstep count #[]) fun records => pure records.toList

theorem readIdent : Accountable ElfInspect.readIdent := by
  refine bind (readExact Abi.identSize) fun ident => ?_
  cases checkIdent ident with
  | ok u => exact pure ident
  | error e => exact throw e

theorem requireIdent (ident : Bytes) (index : Nat) :
    Accountable (FileHeader.requireIdent ident index) := by
  unfold FileHeader.requireIdent
  split
  · exact pure ()
  · exact throw _

theorem readHeader (ident : Bytes) : Accountable (FileHeader.read ident) :=
  bind (requireIdent ident _) fun _ => bind (readLayout _ _ _) fun header =>
    bind (requireIdent ident _) fun _ => pure header

theorem readContent (h : SectionHeader) (chunk : Int) : Accountable (h.readContent chunk) := by
  unfold SectionHeader.readContent ElfInspect.readContent
  split
  · exact pure _
  · split
    · exact throw _
    · exact bind (seekTo _) fun _ => accumulate (fun _ => .content _) h.size #[]

end Accountable

end ElfInspect
