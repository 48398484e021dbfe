import Collective.Proofs.Footprint

/-!
# How the working memory is provided

Every launch asks how much working memory it needs.  Where more is needed than is held, the buffer
is freed and another one is allocated, and only then is the operation launched; where one of these
calls is refused, nothing is launched and nothing is held.  `Supplied` and `Stuck` are these two
kinds of attempts, as they are read off a history, and `Provided` is a stretch of calls all of
whose attempts are complete.
-/

namespace Collective

open Procedure History

/-- The size of a buffer that may be there. -/
def Buffer.sizeOf : Option Buffer → UInt64
  | none => 0
  | some buffer => buffer.size

namespace Event

/-- A call that is neither about the working memory nor about launches. -/
def unscratched (event : Event) : Bool := !about [.scratch, .launches] event

/-- The number of bytes of working memory that a launch asks for. -/
def demand : Event → Nat
  | ⟨.scratchBytes _ _, bytes⟩ => bytes.toNat
  | _ => 0

/-- If this call allocates working memory, the buffer has the size that was asked for. -/
def sized : Event → Bool
  | ⟨.allocate .scratch bytes, .ok buffer⟩ => buffer.size == bytes
  | _ => true

theorem unscratched_of_sizes {event : Event} (sizes : about [.scratch] event = true) :
    event.unscratched = false := by
  simp_all [unscratched, about]

theorem demand_of_unscratched {event : Event} (apart : event.unscratched = true) :
    event.demand = 0 := by
  obtain ⟨call, answer⟩ := event
  cases call with
  | scratchBytes => cases apart
  | _ => rfl

end Event

namespace History

/-- The working memory that is held after some calls. -/
def scratch? : History → Option Buffer
  | [] => none
  | ⟨.allocate .scratch _, .ok buffer⟩ :: _ => some buffer
  | ⟨.free .scratch _, _⟩ :: _ => none
  | _ :: past => scratch? past

/-- The largest number of bytes of working memory that a launch asked for. -/
def largest : History → Nat
  | [] => 0
  | event :: past => max event.demand (largest past)

/-- Working memory is given in the size that is asked for. -/
def Sized (history : History) : Prop := ∀ event ∈ history, event.sized = true

instance (history : History) : Decidable history.Sized :=
  inferInstanceAs (Decidable (∀ event ∈ history, event.sized = true))

/-- The call that frees the buffer that is held, if there is one, and is not refused. -/
def freed (held : Option Buffer) : History :=
  held.toList.map fun buffer => ⟨.free .scratch buffer, .ok ()⟩

/-- A complete attempt at a launch: as much working memory as it asks for is held or allocated,
and then it is launched on that. -/
inductive Supplied (past : History) : History → Prop where
  | enough {bytes : UInt64} {work : Launch} (answer : Fallible Unit) :
      bytes ≤ Buffer.sizeOf past.scratch? → work.scratch = past.scratch? →
      Supplied past (⟨.launch work, answer⟩ ::
        ⟨.scratchBytes work.algorithm work.request, bytes⟩ :: past)
  | grown {bytes : UInt64} {buffer : Buffer} {work : Launch} (answer : Fallible Unit) :
      Buffer.sizeOf past.scratch? < bytes → work.scratch = some buffer →
      Supplied past (⟨.launch work, answer⟩ :: ⟨.allocate .scratch bytes, .ok buffer⟩ ::
        (freed past.scratch? ++ ⟨.scratchBytes work.algorithm work.request, bytes⟩ :: past))

/-- An attempt at a launch that fails since more working memory is needed than is held, and the
buffer that is held cannot be freed or no other one allocated. -/
inductive Stuck (past : History) : Error → History → Prop where
  | unfreed {old : Buffer} {algorithm : Instance} {request : Request} {bytes : UInt64}
      (reason : String) : past.scratch? = some old → old.size < bytes →
      Stuck past (.collaborator reason)
        (⟨.free .scratch old, .error reason⟩ :: ⟨.scratchBytes algorithm request, bytes⟩ :: past)
  | unallocated {algorithm : Instance} {request : Request} {bytes : UInt64} (reason : String) :
      Buffer.sizeOf past.scratch? < bytes →
      Stuck past (.collaborator reason) (⟨.allocate .scratch bytes, .error reason⟩ ::
        (freed past.scratch? ++ ⟨.scratchBytes algorithm request, bytes⟩ :: past))

/-- A call about the working memory that a launch makes necessary, since it has asked for more than
is held. -/
inductive Demanded : Event → History → Prop where
  | free {earlier : History} {old : Buffer} {algorithm : Instance} {request : Request}
      {bytes : UInt64} (answer : Fallible Unit) : earlier.scratch? = some old → old.size < bytes →
      Demanded ⟨.free .scratch old, answer⟩ (⟨.scratchBytes algorithm request, bytes⟩ :: earlier)
  | allocate {earlier : History} {algorithm : Instance} {request : Request} {bytes : UInt64}
      (answer : Fallible Buffer) : Buffer.sizeOf earlier.scratch? < bytes →
      Demanded ⟨.allocate .scratch bytes, answer⟩
        (freed earlier.scratch? ++ ⟨.scratchBytes algorithm request, bytes⟩ :: earlier)

/-- Since a moment all attempts at launches have been complete. -/
inductive Provided (start : History) : History → Prop where
  | refl : Provided start start
  | other {now : History} {event : Event} : Provided start now → event.unscratched = true →
      Provided start (event :: now)
  | attempt {now later : History} : Provided start now → Supplied now later →
      Provided start later

/-- Since a moment all attempts at launches have been complete, but for the last one that ended
with an error.  None ends so unless launches are possible. -/
def Interrupted (possible : Prop) (start : History) (error : Error) (later : History) : Prop :=
  Provided start later ∨ possible ∧ ∃ now, Provided start now ∧ Stuck now error later

section Reading

variable {past middle now later : History} {event : Event} {error : Error} {possible : Prop}

theorem scratch?_cons_of_unscratched (apart : event.unscratched = true) :
    scratch? (event :: past) = scratch? past := by
  obtain ⟨call, answer⟩ := event
  cases call with
  | allocate use | free use =>
      cases use with
      | scratch => cases apart
      | image | syncFlags => rfl
  | _ => rfl

theorem scratch?_cons_of_quiet (quiet : event.quiet = true) :
    scratch? (event :: past) = scratch? past := by
  obtain ⟨call, answer⟩ := event
  cases call with
  | allocate use =>
      cases answer with
      | ok => cases quiet
      | error => cases use <;> rfl
  | free => cases quiet
  | _ => rfl

theorem Only.scratch?_eq (apart : Only Event.unscratched past now) :
    now.scratch? = past.scratch? := by
  obtain ⟨added, rfl, apart⟩ := apart
  induction added with
  | nil => rfl
  | cons event others ih =>
      rw [List.cons_append, scratch?_cons_of_unscratched (apart event List.mem_cons_self)]
      exact ih fun other member => apart other (List.mem_cons_of_mem event member)

theorem Only.unscratched {concerns : List Concern} (made : Only (about concerns) past now)
    (apart : concerns.all (fun concern => concern != .scratch && concern != .launches) = true) :
    Only Event.unscratched past now := by
  obtain ⟨added, rfl, made⟩ := made
  refine ⟨added, rfl, fun event member => ?_⟩
  have concern := List.all_eq_true.mp apart _ (List.contains_iff_mem.mp (made event member))
  simpa [Event.unscratched, about] using concern

theorem largest_append (later earlier : History) :
    largest (later ++ earlier) = max (largest later) (largest earlier) := by
  induction later with
  | nil => simp [largest]
  | cons event others ih => simp [largest, ih, Nat.max_assoc]

@[simp] theorem largest_freed (held : Option Buffer) : largest (freed held) = 0 := by
  cases held <;> rfl

theorem Sized.mono (sized : Sized now) (suffix : past <:+ now) : Sized past :=
  fun event member => sized event (suffix.subset member)

theorem Sized.size_eq {bytes : UInt64} {buffer : Buffer} (sized : Sized now)
    (member : ⟨.allocate .scratch bytes, .ok buffer⟩ ∈ now) : buffer.size = bytes := by
  simpa [Event.sized] using sized _ member

theorem Supplied.suffix (supplied : Supplied past later) : past <:+ later := by
  cases supplied with
  | enough => exact ⟨[_, _], rfl⟩
  | @grown bytes buffer work answer =>
      refine ⟨⟨.launch work, answer⟩ :: ⟨.allocate .scratch bytes, .ok buffer⟩ ::
        (freed past.scratch? ++ [⟨.scratchBytes work.algorithm work.request, bytes⟩]), ?_⟩
      simp

theorem Stuck.suffix (stuck : Stuck past error later) : past <:+ later := by
  cases stuck with
  | unfreed => exact ⟨[_, _], rfl⟩
  | @unallocated algorithm request bytes reason =>
      refine ⟨⟨.allocate .scratch bytes, .error reason⟩ ::
        (freed past.scratch? ++ [⟨.scratchBytes algorithm request, bytes⟩]), ?_⟩
      simp

theorem Provided.suffix (provided : Provided past now) : past <:+ now := by
  induction provided with
  | refl => exact List.suffix_rfl
  | other _ _ ih => exact ih.trans (List.suffix_cons _ _)
  | attempt _ supplied ih => exact ih.trans supplied.suffix

theorem Provided.trans (first : Provided past middle) (second : Provided middle now) :
    Provided past now := by
  induction second with
  | refl => exact first
  | other _ apart ih => exact .other ih apart
  | attempt _ supplied ih => exact .attempt ih supplied

theorem Provided.interrupted (first : Provided past middle)
    (second : Interrupted possible middle error now) : Interrupted possible past error now := by
  rcases second with provided | ⟨able, moment, provided, stuck⟩
  · exact .inl (first.trans provided)
  · exact .inr ⟨able, moment, first.trans provided, stuck⟩

/-- Calls about other things attempt nothing. -/
theorem Only.provided (apart : Only Event.unscratched past now) : Provided past now := by
  obtain ⟨added, rfl, apart⟩ := apart
  induction added with
  | nil => exact .refl
  | cons event others ih =>
      refine .other (ih fun other member => ?_) (apart event List.mem_cons_self)
      exact apart other (List.mem_cons_of_mem event member)

/-- After a failed attempt nothing is held. -/
theorem Stuck.scratch?_eq (stuck : Stuck past error later) : later.scratch? = none := by
  cases stuck with
  | unfreed => rfl
  | unallocated =>
      show scratch? (freed past.scratch? ++ _) = none
      cases held : past.scratch? with
      | none => exact held
      | some buffer => rfl

/-- Of two moments in one history one is before the other. -/
theorem before_or_after (first : event :: past <:+ later) (second : now <:+ later) :
    event :: past <:+ now ∨ now <:+ past := by
  rcases List.suffix_or_suffix_of_suffix first second with before | after
  · exact .inl before
  · rcases List.suffix_cons_iff.mp after with rfl | since
    · exact .inl List.suffix_rfl
    · exact .inr since

/-- A call that is made after a moment is not among the calls until then. -/
theorem not_suffix_of_since (since : now <:+ past) : ¬ event :: past <:+ now :=
  fun made => absurd (made.trans since).length_le (Nat.not_succ_le_self _)

theorem eq_of_suffix_cons {earlier : History} {other : Event}
    (made : event :: past <:+ other :: earlier) (since : earlier <:+ past) :
    event = other ∧ past = earlier := by
  rcases List.suffix_cons_iff.mp made with same | sooner
  · exact List.cons.inj same
  · exact absurd sooner (not_suffix_of_since since)

/-- Before a necessary allocation come the question and, if a buffer is held, its freeing. -/
theorem before_allocation {earlier : History} {algorithm : Instance} {request : Request}
    {bytes : UInt64} (short : Buffer.sizeOf earlier.scratch? < bytes)
    (made : event :: past <:+
      freed earlier.scratch? ++ ⟨.scratchBytes algorithm request, bytes⟩ :: earlier)
    (since : earlier <:+ past) :
    (event = ⟨.scratchBytes algorithm request, bytes⟩ ∧ past = earlier) ∨
      ∃ old, event = ⟨.free .scratch old, .ok ()⟩ ∧ Demanded event past := by
  cases held : earlier.scratch? with
  | none =>
      rw [held] at made
      exact .inl (eq_of_suffix_cons made since)
  | some old =>
      rw [held] at made short
      rcases List.suffix_cons_iff.mp made with same | sooner
      · obtain ⟨rfl, rfl⟩ := List.cons.inj same
        exact .inr ⟨old, rfl, .free (.ok ()) held short⟩
      · exact .inl (eq_of_suffix_cons sooner since)

/-- A call of an attempt, with the calls before it. -/
inductive Part (earlier later : History) : Event → History → Prop where
  | question (algorithm : Instance) (request : Request) (bytes : UInt64) :
      Part earlier later ⟨.scratchBytes algorithm request, bytes⟩ earlier
  | refusal {event : Event} {past : History} : Demanded event past → event.refused = true →
      later = event :: past → Part earlier later event past
  | free {past : History} (old : Buffer) : Demanded ⟨.free .scratch old, .ok ()⟩ past →
      Part earlier later ⟨.free .scratch old, .ok ()⟩ past
  | allocate {past : History} {bytes : UInt64} {buffer : Buffer} {work : Launch}
      (answer : Fallible Unit) : Demanded ⟨.allocate .scratch bytes, .ok buffer⟩ past →
      later = ⟨.launch work, answer⟩ :: ⟨.allocate .scratch bytes, .ok buffer⟩ :: past →
      work.scratch = some buffer →
      Part earlier later ⟨.allocate .scratch bytes, .ok buffer⟩ past
  | launch {past : History} (work : Launch) (answer : Fallible Unit) :
      later = ⟨.launch work, answer⟩ :: past → Part earlier later ⟨.launch work, answer⟩ past

theorem Supplied.part {earlier : History} (supplied : Supplied earlier later)
    (made : event :: past <:+ later) (since : earlier <:+ past) :
    Part earlier later event past := by
  cases supplied with
  | @enough bytes work answer =>
      rcases List.suffix_cons_iff.mp made with same | made
      · obtain ⟨rfl, rfl⟩ := List.cons.inj same
        exact .launch work answer rfl
      · obtain ⟨rfl, rfl⟩ := eq_of_suffix_cons made since
        exact .question _ _ bytes
  | @grown bytes buffer work answer short given =>
      rcases List.suffix_cons_iff.mp made with same | made
      · obtain ⟨rfl, rfl⟩ := List.cons.inj same
        exact .launch work answer rfl
      rcases List.suffix_cons_iff.mp made with same | made
      · obtain ⟨rfl, rfl⟩ := List.cons.inj same
        exact .allocate answer (.allocate (.ok buffer) short) rfl given
      · rcases before_allocation short made since with ⟨rfl, rfl⟩ | ⟨old, rfl, demanded⟩
        · exact .question _ _ bytes
        · exact .free old demanded

theorem Stuck.part {earlier : History} (stuck : Stuck earlier error later)
    (made : event :: past <:+ later) (since : earlier <:+ past) :
    Part earlier later event past := by
  cases stuck with
  | @unfreed old algorithm request bytes reason held short =>
      rcases List.suffix_cons_iff.mp made with same | made
      · obtain ⟨rfl, rfl⟩ := List.cons.inj same
        exact .refusal (.free (.error reason) held short) rfl rfl
      · obtain ⟨rfl, rfl⟩ := eq_of_suffix_cons made since
        exact .question _ _ bytes
  | @unallocated algorithm request bytes reason short =>
      rcases List.suffix_cons_iff.mp made with same | made
      · obtain ⟨rfl, rfl⟩ := List.cons.inj same
        exact .refusal (.allocate (.error reason) short) rfl rfl
      · rcases before_allocation short made since with ⟨rfl, rfl⟩ | ⟨old, rfl, demanded⟩
        · exact .question _ _ bytes
        · exact .free old demanded

/-- A call that is about the working memory or about launches is part of a complete attempt. -/
theorem Provided.within (provided : Provided past now) {before : History}
    (made : event :: before <:+ now) : event :: before <:+ past ∨ event.unscratched = true ∨
      ∃ earlier later, Supplied earlier later ∧ earlier <:+ before ∧ event :: before <:+ later ∧
        later <:+ now := by
  induction provided with
  | refl => exact .inl made
  | other provided apart ih =>
      rcases List.suffix_cons_iff.mp made with same | sooner
      · obtain ⟨rfl, rfl⟩ := List.cons.inj same
        exact .inr (.inl apart)
      · rcases ih sooner with first | free | ⟨earlier, later, supplied, since, within, upTo⟩
        · exact .inl first
        · exact .inr (.inl free)
        · exact .inr (.inr ⟨earlier, later, supplied, since, within,
            upTo.trans (List.suffix_cons _ _)⟩)
  | attempt provided supplied ih =>
      rcases before_or_after made supplied.suffix with sooner | since
      · rcases ih sooner with first | free | ⟨earlier, later, other, since, within, upTo⟩
        · exact .inl first
        · exact .inr (.inl free)
        · exact .inr (.inr ⟨earlier, later, other, since, within, upTo.trans supplied.suffix⟩)
      · exact .inr (.inr ⟨_, _, supplied, since, made, List.suffix_rfl⟩)

/-- In a complete attempt no call about the working memory is refused. -/
theorem Supplied.accepted {earlier : History} (supplied : Supplied earlier later)
    (made : event :: past <:+ later) (since : earlier <:+ past)
    (sizes : about [.scratch] event = true) : event.refused = false := by
  cases supplied.part made since with
  | question | launch => cases sizes
  | free | allocate => rfl
  | refusal demanded _ last =>
      cases demanded <;> cases supplied <;> cases last

/-- A launch has at least as much working memory as it asked for, and none only if it asked for
none and none was held. -/
theorem Supplied.serves {earlier : History} {work : Launch} {answer : Fallible Unit}
    (supplied : Supplied earlier (⟨.launch work, answer⟩ :: past)) (sized : Sized past) :
    ∃ bytes, ⟨.scratchBytes work.algorithm work.request, bytes⟩ :: earlier <:+ past ∧
      bytes ≤ Buffer.sizeOf work.scratch ∧
      (work.scratch = none → bytes = 0 ∧ earlier.scratch? = none) := by
  cases supplied with
  | @enough bytes _ _ enough held =>
      rw [held]
      refine ⟨bytes, List.suffix_rfl, enough, fun nothing => ⟨?_, nothing⟩⟩
      rw [nothing] at enough
      exact UInt64.le_zero_iff.mp enough
  | @grown bytes buffer _ _ short given =>
      rw [given]
      refine ⟨bytes, ?_, ?_, fun nothing => ?_⟩
      · exact (List.suffix_append _ _).trans (List.suffix_cons _ _)
      · rw [Buffer.sizeOf, sized.size_eq List.mem_cons_self]
        exact UInt64.le_refl bytes
      · cases nothing

theorem Supplied.size {earlier : History} (supplied : Supplied earlier later)
    (sized : Sized later) : ∃ added, later = added ++ earlier ∧
      (Buffer.sizeOf later.scratch?).toNat =
        max (Buffer.sizeOf earlier.scratch?).toNat (largest added) := by
  cases supplied with
  | @enough bytes work answer enough =>
      refine ⟨[_, _], rfl, ?_⟩
      have least : bytes.toNat ≤ (Buffer.sizeOf earlier.scratch?).toNat := enough
      show (Buffer.sizeOf earlier.scratch?).toNat = max _ (max 0 (max bytes.toNat 0))
      omega
  | @grown bytes buffer work answer short =>
      have size : buffer.size = bytes := sized.size_eq (by simp)
      have less : (Buffer.sizeOf earlier.scratch?).toNat < bytes.toNat := short
      refine ⟨⟨.launch work, answer⟩ :: ⟨.allocate .scratch bytes, .ok buffer⟩ ::
        (freed earlier.scratch? ++ [⟨.scratchBytes work.algorithm work.request, bytes⟩]),
        by simp, ?_⟩
      have most : largest (freed earlier.scratch? ++
          [⟨.scratchBytes work.algorithm work.request, bytes⟩]) = bytes.toNat := by
        simp [largest_append, largest, Event.demand]
      show buffer.size.toNat = max _ (max 0 (max 0 (largest _)))
      rw [most, size]
      omega

/-- Where nothing fails, the buffer that is held is as large as the largest request. -/
theorem Provided.size (provided : Provided past now) (sized : Sized now) :
    ∃ added, now = added ++ past ∧ (Buffer.sizeOf now.scratch?).toNat =
      max (Buffer.sizeOf past.scratch?).toNat (largest added) := by
  induction provided with
  | refl => exact ⟨[], rfl, by simp [largest]⟩
  | @other now event _ apart ih =>
      obtain ⟨added, rfl, size⟩ := ih (sized.mono (List.suffix_cons _ _))
      refine ⟨event :: added, rfl, ?_⟩
      rw [scratch?_cons_of_unscratched apart, size, largest, Event.demand_of_unscratched apart,
        Nat.zero_max]
  | attempt _ supplied ih =>
      obtain ⟨added, rfl, size⟩ := ih (sized.mono supplied.suffix)
      obtain ⟨more, rfl, larger⟩ := supplied.size sized
      refine ⟨more ++ added, by simp, ?_⟩
      rw [larger, size, largest_append]
      omega

/-- In complete attempts no call about the working memory is refused. -/
theorem Provided.accepted (provided : Provided past now) {before : History}
    (made : event :: before <:+ now) (sizes : about [.scratch] event = true) :
    event :: before <:+ past ∨ event.refused = false := by
  rcases provided.within made with sooner | apart | ⟨_, _, supplied, since, within, -⟩
  · exact .inl sooner
  · rw [Event.unscratched_of_sizes sizes] at apart
    cases apart
  · exact .inr (supplied.accepted within since sizes)

/-- A call that is part of an attempt at a launch, made by some moment. -/
def Attempted (event : Event) (past now : History) : Prop :=
  ∃ earlier later, (Supplied earlier later ∨ ∃ error, Stuck earlier error later) ∧
    earlier <:+ past ∧ event :: past <:+ later ∧ later <:+ now

theorem Attempted.mono {before : History} (attempted : Attempted event before past)
    (suffix : past <:+ now) : Attempted event before now := by
  obtain ⟨earlier, later, attempt, since, within, upTo⟩ := attempted
  exact ⟨earlier, later, attempt, since, within, upTo.trans suffix⟩

theorem Provided.attempted (provided : Provided past now) {before : History}
    (made : event :: before <:+ now) : event :: before <:+ past ∨ event.unscratched = true ∨
      Attempted event before now := by
  rcases provided.within made with sooner | apart | ⟨_, _, supplied, since, within, upTo⟩
  · exact .inl sooner
  · exact .inr (.inl apart)
  · exact .inr (.inr ⟨_, _, .inl supplied, since, within, upTo⟩)

theorem Interrupted.attempted (ended : Interrupted possible past error now) {before : History}
    (made : event :: before <:+ now) : event :: before <:+ past ∨ event.unscratched = true ∨
      Attempted event before now := by
  rcases ended with provided | ⟨-, moment, provided, stuck⟩
  · exact provided.attempted made
  · rcases before_or_after made stuck.suffix with sooner | since
    · rcases provided.attempted sooner with first | apart | attempted
      · exact .inl first
      · exact .inr (.inl apart)
      · exact .inr (.inr (attempted.mono stuck.suffix))
    · exact .inr (.inr ⟨_, _, .inr ⟨_, stuck⟩, since, made, List.suffix_rfl⟩)

theorem Attempted.part {before : History} (attempted : Attempted event before now) :
    ∃ earlier later, (Supplied earlier later ∨ ∃ error, Stuck earlier error later) ∧
      Part earlier later event before ∧ event :: before <:+ later ∧ later <:+ now := by
  obtain ⟨earlier, later, attempt, since, within, upTo⟩ := attempted
  refine ⟨earlier, later, attempt, ?_, within, upTo⟩
  rcases attempt with supplied | ⟨error, stuck⟩
  · exact supplied.part within since
  · exact stuck.part within since

/-- Working memory is allocated and freed on demand. -/
theorem Attempted.demanded {before : History} (attempted : Attempted event before now)
    (sizes : about [.scratch] event = true) : Demanded event before := by
  obtain ⟨earlier, later, -, part, -⟩ := attempted.part
  cases part with
  | question | launch => cases sizes
  | refusal demanded | free _ demanded | allocate _ demanded => exact demanded

/-- A launch is the end of a complete attempt. -/
theorem Attempted.launch {work : Launch} {answer : Fallible Unit}
    (attempted : Attempted ⟨.launch work, answer⟩ past now) :
    ∃ earlier, Supplied earlier (⟨.launch work, answer⟩ :: past) := by
  obtain ⟨earlier, later, attempt, part, -⟩ := attempted.part
  cases part with
  | launch _ _ last =>
      rcases attempt with supplied | ⟨_, stuck⟩
      · exact ⟨earlier, last ▸ supplied⟩
      · cases stuck <;> cases last
  | refusal demanded => cases demanded

/-- A question is the beginning of an attempt. -/
theorem Attempted.question {algorithm : Instance} {request : Request} {bytes : UInt64}
    (attempted : Attempted ⟨.scratchBytes algorithm request, bytes⟩ past now) :
    ∃ later, ⟨.scratchBytes algorithm request, bytes⟩ :: past <:+ later ∧ later <:+ now ∧
      (Supplied past later ∨ ∃ error, Stuck past error later) := by
  obtain ⟨earlier, later, attempt, part, within, upTo⟩ := attempted.part
  cases part with
  | question => exact ⟨later, within, upTo, attempt⟩
  | refusal demanded => cases demanded

/-- As soon as a buffer is allocated, the launch that asked for it is made on it. -/
theorem Attempted.allocate {bytes : UInt64} {buffer : Buffer}
    (attempted : Attempted ⟨.allocate .scratch bytes, .ok buffer⟩ past now) :
    ∃ work answer, work.scratch = some buffer ∧
      ⟨.launch work, answer⟩ :: ⟨.allocate .scratch bytes, .ok buffer⟩ :: past <:+ now := by
  obtain ⟨earlier, later, -, part, -, upTo⟩ := attempted.part
  cases part with
  | @allocate _ _ _ work answer _ last given => exact ⟨work, answer, given, last ▸ upTo⟩
  | refusal _ refused => cases refused

/-- A failed attempt ends with a call about the working memory that is refused. -/
theorem Stuck.refused (stuck : Stuck past error later) : ∃ reason event before,
    error = .collaborator reason ∧ later = event :: before ∧ past <:+ before ∧
      about [.scratch] event = true ∧ event.refused = true := by
  cases stuck with
  | unfreed reason => exact ⟨reason, _, _, rfl, rfl, List.suffix_cons _ _, rfl, rfl⟩
  | unallocated reason =>
      refine ⟨reason, _, _, rfl, rfl, ?_, rfl, rfl⟩
      exact (List.suffix_cons _ _).trans (List.suffix_append _ _)

/-- A failed attempt passes the buffer that was held to be freed, and nothing else. -/
theorem Stuck.frees_eq (stuck : Stuck past error later) :
    later.frees = (past.scratch?.toList : Multiset Buffer) + past.frees := by
  cases stuck with
  | unfreed reason held => simp [held, Call.freed?]
  | unallocated =>
      cases held : past.scratch? with
      | none => simp [freed, Call.freed?]
      | some old => simp [freed, Call.freed?]

/-- Since a moment the buffer that was held, if there was one, has been freed once, and no launch
has been attempted. -/
def GivesUp (past now : History) : Prop :=
  ∃ middle between, Only Event.unscratched past middle ∧
    Adds middle (past.scratch?.toList.map (.free .scratch)) between ∧
    Only Event.unscratched between now

theorem GivesUp.scratch?_eq (gone : GivesUp past now) : now.scratch? = none := by
  obtain ⟨middle, between, first, freeing, second⟩ := gone
  rw [second.scratch?_eq]
  cases held : past.scratch? with
  | none =>
      rw [held] at freeing
      rw [freeing.eq_of_nil, first.scratch?_eq, held]
  | some buffer =>
      rw [held] at freeing
      obtain ⟨⟨call, answer⟩, rfl, rfl⟩ := freeing.exists_of_single
      rfl

/-- Where nothing is held, to give it up attempts nothing. -/
theorem GivesUp.provided (gone : GivesUp past now)
    (nothing : past.scratch? = none) : Provided past now := by
  obtain ⟨middle, between, first, freeing, second⟩ := gone
  rw [nothing] at freeing
  rw [freeing.eq_of_nil] at second
  exact first.provided.trans second.provided

/-- A call about the working memory by which what is held is given up frees just that. -/
theorem GivesUp.within (gone : GivesUp past now) {before : History}
    (made : event :: before <:+ now) : event :: before <:+ past ∨ event.unscratched = true ∨
      ∃ buffer, event.call = .free .scratch buffer ∧ before.scratch? = some buffer := by
  obtain ⟨middle, between, first, freeing, second⟩ := gone
  rcases second.within made with sooner | apart
  · have opening (made : event :: before <:+ middle) :
        event :: before <:+ past ∨ event.unscratched = true ∨
          ∃ buffer, event.call = .free .scratch buffer ∧ before.scratch? = some buffer := by
      rcases first.within made with sooner | apart
      · exact .inl sooner
      · exact .inr (.inl apart)
    cases held : past.scratch? with
    | none =>
        rw [held] at freeing
        rw [freeing.eq_of_nil] at sooner
        exact opening sooner
    | some buffer =>
        rw [held] at freeing
        obtain ⟨other, call, rfl⟩ := freeing.exists_of_single
        rcases List.suffix_cons_iff.mp sooner with same | sooner
        · obtain ⟨rfl, rfl⟩ := List.cons.inj same
          exact .inr (.inr ⟨buffer, call, first.scratch?_eq.trans held⟩)
        · exact opening sooner
  · exact .inr (.inl apart)

end Reading

end History

namespace Procedure

variable {S α : Type} {possible : Prop} {env : Environment} {state : S} {history : History}

/-- However a procedure ends, all its attempts at launches have been complete, but for the last one
where launches are possible and it ends with an error. -/
def Supplies (procedure : Procedure S α) (possible : Prop) (env : Environment) (state : S)
    (history : History) : Prop :=
  procedure.Ensures env state history (fun _ _ => Provided history)
    (fun error _ => Interrupted possible history error)

/-- A procedure that is about something else attempts nothing. -/
theorem Makes.supplies {procedure : Procedure S α} {concerns : List Concern}
    (makes : procedure.Makes (about concerns))
    (apart : concerns.all (fun concern => concern != .scratch && concern != .launches) = true) :
    procedure.Supplies possible env state history := by
  have provided := ((makes env state history).unscratched apart).provided
  unfold Supplies Ensures
  rcases outcome : procedure.run env state history with ⟨error | value, after, later⟩
  · rw [outcome] at provided
    exact .inl provided
  · rw [outcome] at provided
    exact provided

namespace Supplies

variable {T β : Type} {past : History}

/-- What is supplied after complete attempts is supplied since the first of them. -/
theorem since {procedure : Procedure S α} (supplies : procedure.Supplies possible env state history)
    (provided : Provided past history) :
    procedure.Ensures env state history (fun _ _ => Provided past)
      (fun error _ => Interrupted possible past error) :=
  supplies.mono (fun _ _ _ rest => provided.trans rest)
    (fun _ _ _ rest => provided.interrupted rest)

theorem bind {first : Procedure S α} {next : α → Procedure S β}
    (before : first.Supplies possible env state history)
    (after : ∀ value state history, (next value).Supplies possible env state history) :
    (first >>= next).Supplies possible env state history := by
  unfold Supplies
  rw [ensures_bind]
  refine before.mono ?_ (fun _ _ _ ended => ended)
  exact fun value state history provided => (after value state history).since provided

theorem within {part : S → T} {replace : S → T → S} {procedure : Procedure T α}
    (supplies : procedure.Supplies possible env (part state) history) :
    (within part replace procedure).Supplies possible env state history := by
  unfold Supplies
  rw [ensures_within]
  exact supplies

end Supplies

end Procedure

end Collective
