import Mathlib.Data.List.TakeWhile
import Pherry.Lib.Concurrent
import Pherry.Protocol.Schema

/-!
# The lock and the socket of the daemon

Daemons that start and stop on one home directory, by the pid file that is their lock and the socket
that they listen on. A step is one of a process between two of its awaits, or the check of a process
that it does at once with what follows. A crash leaves both files where they are.
-/

namespace Pherry.Cli

open Lib Protocol

/-! ## The pid file -/

/-- The pid of a text, as `readPidFile` parses it: a positive integer at its front. -/
def parsePid (text : JsString) : Option ℕ :=
  let unsigned :=
    match trim text with
    | 0x2B :: rest => rest
    | other => other
  match natural (unsigned.takeWhile isDigit) with
  | some pid => if pid > 0 then some pid else none
  | none => none

/-- What `writePidFile` writes. -/
def pidText (pid : ℕ) : JsString := js (toString pid) ++ [0x0A]

/-- `readPidFile`, of a file that may be absent. -/
def readPid (pidFile : Option JsString) : Option ℕ := pidFile.bind parsePid

/-! ## Processes -/

/-- What is found at the path of the socket: nothing, a file that nobody listens behind, or the socket
of a process. -/
inductive SocketFile
  | absent
  | stale
  | bound (i : ℕ)
deriving DecidableEq

/-- What a process awaits next. -/
inductive DaemonPhase
  -- `startServe`
  | reading
  | found (existing : Option ℕ)
  | removing (existing : ℕ)
  | loadingKey
  | locking
  | unlinking
  | binding
  | releasing
  | serving
  -- `close`
  | closing
  | unlinkingOwn
  | unlocking
  -- `stopServe`
  | readingToStop
  | foundToStop (pid : Option ℕ)
  | removingToStop (pid : ℕ)
  | exited
deriving DecidableEq

/-- A process that starts or stops a daemon. -/
structure DaemonProcess where
  pid : ℕ
  phase : DaemonPhase
deriving DecidableEq

/-- It has not exited. -/
def DaemonProcess.isLive (p : DaemonProcess) : Bool := p.phase ≠ .exited

/-- It has written the lock and not taken it away again. -/
def DaemonProcess.holds (p : DaemonProcess) : Bool :=
  match p.phase with
  | .unlinking | .binding | .releasing | .serving | .closing | .unlinkingOwn | .unlocking => true
  | _ => false

/-- Its server listens. -/
def DaemonProcess.listens (p : DaemonProcess) : Bool :=
  match p.phase with
  | .serving | .closing => true
  | _ => false

/-- The home directory, the processes of this program so far, and the pids of all others. -/
structure Home where
  pidFile : Option JsString
  socket : SocketFile
  processes : List DaemonProcess
  others : List ℕ

/-- A start or a stop begins, a process takes its next step, which may fail where the system refuses
it, a daemon is told to close, a process crashes, or other processes come and go. -/
inductive HomeEvent
  | start (pid : ℕ)
  | stop (pid : ℕ)
  | step (i : ℕ) (ok : Bool)
  | close (i : ℕ)
  | crash (i : ℕ)
  | others (pids : List ℕ)

namespace Home

/-- `isProcessAlive`. -/
def isAlive (s : Home) (pid : ℕ) : Bool :=
  s.others.contains pid || s.processes.any fun p => p.isLive && p.pid == pid

/-- A process goes on to a phase. -/
def goTo (s : Home) (i : ℕ) (phase : DaemonPhase) : Home :=
  { s with processes := s.processes.modify i fun p => { p with phase := phase } }

/-- A new process, under a pid that no process has. -/
def spawn (s : Home) (pid : ℕ) (phase : DaemonPhase) : Home :=
  if pid = 0 ∨ s.isAlive pid then s else { s with processes := s.processes ++ [⟨pid, phase⟩] }

/-- The pid file is removed. -/
def removePidFile (s : Home) : Home := { s with pidFile := none }

/-- The socket file is unlinked. -/
def unlink (s : Home) : Home := { s with socket := .absent }

/-- The next step of a process. Listening fails where the path is taken; the server unlinks the path
as it closes, and `close` does so once more. -/
def advance (s : Home) (i : ℕ) (ok : Bool) (p : DaemonProcess) : Home :=
  match p.phase with
  | .reading => s.goTo i (.found (readPid s.pidFile))
  | .found none => s.goTo i .loadingKey
  | .found (some pid) => if s.isAlive pid then s.goTo i .exited else s.goTo i (.removing pid)
  | .removing _ => s.removePidFile.goTo i .loadingKey
  | .loadingKey => if ok then s.goTo i .locking else s.goTo i .exited
  | .locking => { s with pidFile := some (pidText p.pid) }.goTo i .unlinking
  | .unlinking => s.unlink.goTo i .binding
  | .binding =>
    if ok ∧ s.socket = .absent then { s with socket := .bound i }.goTo i .serving
    else s.goTo i .releasing
  | .releasing => s.removePidFile.goTo i .exited
  | .serving => s
  | .closing => s.unlink.goTo i .unlinkingOwn
  | .unlinkingOwn => s.unlink.goTo i .unlocking
  | .unlocking => s.removePidFile.goTo i .exited
  | .readingToStop => s.goTo i (.foundToStop (readPid s.pidFile))
  | .foundToStop none => s.goTo i .exited
  | .foundToStop (some pid) =>
    -- a signal that is sent closes or kills its process later; the polling behind it only reads
    if s.isAlive pid ∧ ok then s.goTo i .exited else s.goTo i (.removingToStop pid)
  | .removingToStop _ => s.removePidFile.goTo i .exited
  | .exited => s

/-- A step. -/
def react (s : Home) : HomeEvent → Home
  | .start pid => s.spawn pid .reading
  | .stop pid => s.spawn pid .readingToStop
  | .step i ok =>
    match s.processes[i]? with
    | none => s
    | some p => s.advance i ok p
  | .close i =>
    match s.processes[i]? with
    | some ⟨_, .serving⟩ => s.goTo i .closing
    | _ => s
  | .crash i => s.goTo i .exited
  | .others pids =>
    { s with others := pids.filter fun pid => !s.processes.any fun p => p.isLive && p.pid == pid }

end Home

/-- A home directory with these files, before any process. -/
def homeMachine (pidFile : Option JsString) (stale : Bool) : Machine Home HomeEvent :=
  ⟨⟨pidFile, if stale then .stale else .absent, [], []⟩, Home.react⟩

/-! ## The singleton -/

variable (pidFile : Option JsString) (stale : Bool) (es : List HomeEvent)

/-- At most one process holds the lock; one that listens holds it, and both files are its own; no
step of another process changes the lock of one that holds it, or the socket of one that listens. -/
structure SingletonLaw : Prop where
  alone : ∀ (i j : ℕ) p q, ((homeMachine pidFile stale).run es).processes[i]? = some p →
    ((homeMachine pidFile stale).run es).processes[j]? = some q →
    p.holds = true → q.holds = true → i = j
  owns : ∀ (i : ℕ) p, ((homeMachine pidFile stale).run es).processes[i]? = some p →
    p.listens = true → p.holds = true ∧
      readPid ((homeMachine pidFile stale).run es).pidFile = some p.pid ∧
      ((homeMachine pidFile stale).run es).socket = .bound i
  locks : ∀ pre e post, es = pre ++ e :: post → ∀ (i : ℕ) p,
    ((homeMachine pidFile stale).run pre).processes[i]? = some p → p.holds = true →
    (∀ ok, e ≠ .step i ok) →
    ((homeMachine pidFile stale).run (pre ++ [e])).pidFile =
      ((homeMachine pidFile stale).run pre).pidFile
  sockets : ∀ pre e post, es = pre ++ e :: post → ∀ (i : ℕ) p,
    ((homeMachine pidFile stale).run pre).processes[i]? = some p → p.listens = true →
    (∀ ok, e ≠ .step i ok) →
    ((homeMachine pidFile stale).run (pre ++ [e])).socket =
      ((homeMachine pidFile stale).run pre).socket

/-- A lock that was judged stale is removed while the file is as it was judged, or holds no pid, and
the process is still gone; a lock is written where the file holds no pid. -/
def Home.isOrderly (s : Home) : HomeEvent → Bool
  | .step i _ =>
    match s.processes[i]? with
    | some ⟨_, .removing pid⟩ | some ⟨_, .removingToStop pid⟩ =>
      readPid s.pidFile = none || readPid s.pidFile = some pid && !s.isAlive pid
    | some ⟨_, .locking⟩ => readPid s.pidFile = none
    | _ => true
  | _ => true

/-! ## The pid file is read back -/

lemma trim_digits {digits : JsString} (hne : digits ≠ []) (h : digits.all isDigit = true) :
    trim (digits ++ [0x0A]) = digits := by
  rw [List.all_eq_true] at h
  obtain ⟨first, rest, rfl⟩ := List.exists_cons_of_ne_nil hne
  have hfront : ((first :: rest) ++ [0x0A]).dropWhile isSpace = (first :: rest) ++ [0x0A] := by
    rw [List.cons_append, List.dropWhile_cons_of_neg]
    rw [not_isSpace_of_isDigit (h first List.mem_cons_self)]
    exact Bool.false_ne_true
  have hback : ((first :: rest) ++ [0x0A]).reverse.dropWhile isSpace = (first :: rest).reverse := by
    rw [List.reverse_append, List.reverse_singleton, List.singleton_append,
      List.dropWhile_cons_of_pos (by decide)]
    obtain ⟨last, front, hlast⟩ := List.exists_cons_of_ne_nil
      (List.reverse_ne_nil_iff.2 (List.cons_ne_nil first rest))
    have hmem : last ∈ first :: rest := by
      rw [← List.mem_reverse, hlast]
      exact List.mem_cons_self
    rw [hlast, List.dropWhile_cons_of_neg]
    rw [not_isSpace_of_isDigit (h last hmem)]
    exact Bool.false_ne_true
  rw [trim, hfront, hback, List.reverse_reverse]

lemma digits_toString (n : ℕ) : js (toString n) ≠ [] ∧ (js (toString n)).all isDigit = true := by
  have hdigits : ∀ c ∈ Nat.toDigits 10 n, c.isDigit = true :=
    fun c hc => Nat.isDigit_of_mem_toDigits (by decide) (by decide) hc
  have htext : js (toString n) = (Nat.toDigits 10 n).map digitUnit := by
    rw [← js_digits hdigits, ← Nat.toString_eq_ofList_toDigits]
  rw [htext]
  constructor
  · rw [Ne, List.map_eq_nil_iff]
    exact Nat.toDigits_ne_nil
  · rw [List.all_map, List.all_eq_true]
    exact fun c hc => isDigit_digitUnit (hdigits c hc)

lemma readPid_pidText {pid : ℕ} (h : 0 < pid) : readPid (some (pidText pid)) = some pid := by
  obtain ⟨hne, hall⟩ := digits_toString pid
  have htrim := trim_digits hne hall
  have hplus : ∀ rest, js (toString pid) ≠ 0x2B :: rest := by
    intro rest heq
    rw [heq, List.all_cons, Bool.and_eq_true] at hall
    exact absurd hall.1 (by decide)
  have hunsigned : (match trim (js (toString pid) ++ [0x0A]) with
      | 0x2B :: rest => rest
      | other => other) = js (toString pid) := by
    rw [htrim]
    split
    · next rest heq => exact absurd heq (hplus rest)
    · rfl
  have hwhole : (js (toString pid)).takeWhile isDigit = js (toString pid) :=
    List.takeWhile_eq_self_iff.2 (List.all_eq_true.1 hall)
  have hnatural : natural (js (toString pid)) = some pid := natural_js pid
  rw [readPid, Option.bind_some, parsePid, pidText]
  simp only [hunsigned, hwhole, hnatural]
  rw [if_pos h]

/-! ## One step -/

/-- Its next step may change a file. -/
def DaemonProcess.touches (p : DaemonProcess) : Bool :=
  match p.phase with
  | .removing _ | .removingToStop _ | .locking => true
  | _ => p.holds

lemma DaemonProcess.isLive_of_holds {p : DaemonProcess} (h : p.holds = true) :
    p.isLive = true := by
  obtain ⟨pid, phase⟩ := p
  cases phase with
  | exited => cases h
  | _ => rfl

lemma DaemonProcess.holds_of_listens {p : DaemonProcess} (h : p.listens = true) :
    p.holds = true := by
  obtain ⟨pid, phase⟩ := p
  cases phase with
  | serving => rfl
  | closing => rfl
  | _ => cases h

namespace Home

variable {s s' : Home} {i j : ℕ} {p q : DaemonProcess} {phase : DaemonPhase}

/-- A process goes on to a phase, over files that are changed only by a step that touches them, and
that are its own in the phases that say so. -/
structure Stepped (s : Home) (i : ℕ) (p : DaemonProcess) (s' : Home) (phase : DaemonPhase) :
    Prop where
  processes : s'.processes = s.processes
  live : p.isLive = true
  files : p.touches = false → s'.pidFile = s.pidFile ∧ s'.socket = s.socket
  lock : (p.holds = true → readPid s.pidFile = some p.pid) →
    DaemonProcess.holds ⟨p.pid, phase⟩ = true → readPid s'.pidFile = some p.pid
  socket : DaemonProcess.listens ⟨p.pid, phase⟩ = true → s'.socket = .bound i

lemma Stepped.free (hprocesses : s'.processes = s.processes) (hlive : p.isLive = true)
    (hfiles : p.touches = false → s'.pidFile = s.pidFile ∧ s'.socket = s.socket)
    (hphase : DaemonProcess.holds ⟨p.pid, phase⟩ = false) : Stepped s i p s' phase := by
  refine ⟨hprocesses, hlive, hfiles, fun _ hholds => ?_, fun hlistens => ?_⟩
  · rw [hphase] at hholds
    cases hholds
  · rw [DaemonProcess.holds_of_listens hlistens] at hphase
    cases hphase

lemma Stepped.quiet (hlive : p.isLive = true)
    (hphase : DaemonProcess.holds ⟨p.pid, phase⟩ = false) : Stepped s i p s phase :=
  .free rfl hlive (fun _ => ⟨rfl, rfl⟩) hphase

lemma Stepped.kept (hprocesses : s'.processes = s.processes) (hfile : s'.pidFile = s.pidFile)
    (hholds : p.holds = true)
    (hsocket : DaemonProcess.listens ⟨p.pid, phase⟩ = true → s'.socket = .bound i) :
    Stepped s i p s' phase := by
  refine ⟨hprocesses, DaemonProcess.isLive_of_holds hholds, fun htouches => ?_,
    fun hlock _ => by rw [hfile, hlock hholds], hsocket⟩
  have htouching : p.touches = true := by
    obtain ⟨pid, phase⟩ := p
    cases phase <;> first | rfl | exact hholds
  rw [htouching] at htouches
  cases htouches

lemma advance_cases (s : Home) (i : ℕ) (ok : Bool) (p : DaemonProcess) (hpid : 0 < p.pid) :
    s.advance i ok p = s ∨
      ∃ s' phase, s.advance i ok p = Home.goTo s' i phase ∧ Stepped s i p s' phase := by
  obtain ⟨pid, phase⟩ := p
  cases phase with
  | reading => exact Or.inr ⟨s, _, rfl, .quiet rfl rfl⟩
  | found existing =>
    cases existing with
    | none => exact Or.inr ⟨s, _, rfl, .quiet rfl rfl⟩
    | some other =>
      simp only [advance]
      split
      · exact Or.inr ⟨s, _, rfl, .quiet rfl rfl⟩
      · exact Or.inr ⟨s, _, rfl, .quiet rfl rfl⟩
  | removing existing =>
    exact Or.inr ⟨s.removePidFile, _, rfl, .free rfl rfl (fun h => by cases h) rfl⟩
  | loadingKey =>
    simp only [advance]
    split
    · exact Or.inr ⟨s, _, rfl, .quiet rfl rfl⟩
    · exact Or.inr ⟨s, _, rfl, .quiet rfl rfl⟩
  | locking =>
    refine Or.inr ⟨{ s with pidFile := some (pidText pid) }, _, rfl, rfl, rfl, ?_, ?_, ?_⟩
    · intro htouches
      cases htouches
    · intro _ _
      exact readPid_pidText hpid
    · intro hlistens
      cases hlistens
  | unlinking => exact Or.inr ⟨s.unlink, _, rfl, .kept rfl rfl rfl fun h => by cases h⟩
  | binding =>
    simp only [advance]
    split
    · exact Or.inr ⟨{ s with socket := .bound i }, _, rfl, .kept rfl rfl rfl fun _ => rfl⟩
    · exact Or.inr ⟨s, _, rfl, .kept rfl rfl rfl fun h => by cases h⟩
  | releasing => exact Or.inr ⟨s.removePidFile, _, rfl, .free rfl rfl (fun h => by cases h) rfl⟩
  | serving => exact Or.inl rfl
  | closing => exact Or.inr ⟨s.unlink, _, rfl, .kept rfl rfl rfl fun h => by cases h⟩
  | unlinkingOwn => exact Or.inr ⟨s.unlink, _, rfl, .kept rfl rfl rfl fun h => by cases h⟩
  | unlocking => exact Or.inr ⟨s.removePidFile, _, rfl, .free rfl rfl (fun h => by cases h) rfl⟩
  | readingToStop => exact Or.inr ⟨s, _, rfl, .quiet rfl rfl⟩
  | foundToStop existing =>
    cases existing with
    | none => exact Or.inr ⟨s, _, rfl, .quiet rfl rfl⟩
    | some other =>
      simp only [advance]
      split
      · exact Or.inr ⟨s, _, rfl, .quiet rfl rfl⟩
      · exact Or.inr ⟨s, _, rfl, .quiet rfl rfl⟩
  | removingToStop existing =>
    exact Or.inr ⟨s.removePidFile, _, rfl, .free rfl rfl (fun h => by cases h) rfl⟩
  | exited => exact Or.inl rfl

lemma getElem?_goTo (h : (s.goTo i phase).processes[j]? = some q) :
    j ≠ i ∧ s.processes[j]? = some q ∨
      j = i ∧ ∃ p, s.processes[i]? = some p ∧ q = { p with phase := phase } := by
  rw [goTo, List.getElem?_modify] at h
  obtain ⟨p, hp, hq⟩ := Option.map_eq_some_iff.1 h
  by_cases hij : i = j
  · subst hij
    rw [if_pos rfl] at hq
    exact Or.inr ⟨rfl, p, hp, hq.symm⟩
  · rw [if_neg hij] at hq
    subst hq
    exact Or.inl ⟨fun heq => hij heq.symm, hp⟩

lemma isAlive_of_live (hp : s.processes[i]? = some p) (hlive : p.isLive = true) :
    s.isAlive p.pid = true := by
  rw [isAlive, Bool.or_eq_true]
  refine Or.inr (List.any_eq_true.2 ⟨p, List.mem_of_getElem? hp, ?_⟩)
  rw [hlive]
  simp

end Home

/-! ## Every run -/

/-- Processes that have not exited have pids of their own, a process that holds the lock is the one
that the pid file names, and one that listens does so behind the socket file. -/
structure Home.Guarded (s : Home) : Prop where
  pos : ∀ (i : ℕ) p, s.processes[i]? = some p → 0 < p.pid
  pids : ∀ (i j : ℕ) p q, s.processes[i]? = some p → s.processes[j]? = some q → p.isLive = true →
    q.isLive = true → p.pid = q.pid → i = j
  lock : ∀ (i : ℕ) p, s.processes[i]? = some p → p.holds = true → readPid s.pidFile = some p.pid
  sock : ∀ (i : ℕ) p, s.processes[i]? = some p → p.listens = true → s.socket = .bound i

namespace Home.Guarded

variable {s : Home} {i j : ℕ} {p q : DaemonProcess}

lemma alone (h : s.Guarded) (hp : s.processes[i]? = some p) (hq : s.processes[j]? = some q)
    (hi : p.holds = true) (hj : q.holds = true) : i = j := by
  have hsame : some p.pid = some q.pid := (h.lock i p hp hi).symm.trans (h.lock j q hq hj)
  exact h.pids i j p q hp hq (DaemonProcess.isLive_of_holds hi) (DaemonProcess.isLive_of_holds hj)
    (Option.some.inj hsame)

/-- While a process takes a step in order that may change a file, no other one holds the lock. -/
lemma not_holds (h : s.Guarded) {ok : Bool} (hc : s.isOrderly (.step i ok) = true)
    (hp : s.processes[i]? = some p) (htouches : p.touches = true)
    (hq : s.processes[j]? = some q) (hne : j ≠ i) : q.holds = false := by
  by_contra hholds
  rw [Bool.not_eq_false] at hholds
  have hlock := h.lock j q hq hholds
  have halive := Home.isAlive_of_live hq (DaemonProcess.isLive_of_holds hholds)
  -- the file is not as it was judged, or the step is one of the holder
  have hjudged : ∀ pid, (readPid s.pidFile = none || readPid s.pidFile = some pid &&
      !s.isAlive pid) = true → False := by
    intro pid hjudged
    rw [hlock] at hjudged
    simp only [reduceCtorEq, decide_false, Option.some.injEq, Bool.false_or, Bool.and_eq_true,
      decide_eq_true_eq, Bool.not_eq_true'] at hjudged
    rw [← hjudged.1, halive] at hjudged
    exact absurd hjudged.2 (by decide)
  rw [Home.isOrderly, hp] at hc
  obtain ⟨pid, phase⟩ := p
  cases phase with
  | removing existing => exact hjudged existing hc
  | removingToStop existing => exact hjudged existing hc
  | locking =>
    have hnone := of_decide_eq_true hc
    rw [hlock] at hnone
    cases hnone
  | unlinking => exact hne (h.alone hq hp hholds rfl)
  | binding => exact hne (h.alone hq hp hholds rfl)
  | releasing => exact hne (h.alone hq hp hholds rfl)
  | serving => exact hne (h.alone hq hp hholds rfl)
  | closing => exact hne (h.alone hq hp hholds rfl)
  | unlinkingOwn => exact hne (h.alone hq hp hholds rfl)
  | unlocking => exact hne (h.alone hq hp hholds rfl)
  | reading => cases htouches
  | found existing => cases htouches
  | loadingKey => cases htouches
  | readingToStop => cases htouches
  | foundToStop existing => cases htouches
  | exited => cases htouches

/-- A process goes on to a phase, over files that are still those of the other processes. -/
lemma goTo (h : s.Guarded) {s' : Home} {phase : DaemonPhase}
    (hprocesses : s'.processes = s.processes) (hp : s.processes[i]? = some p)
    (hlive : p.isLive = true ∨ phase = .exited)
    (hothers : ∀ (j : ℕ) q, j ≠ i → s.processes[j]? = some q → q.holds = true →
      readPid s'.pidFile = readPid s.pidFile ∧ s'.socket = s.socket)
    (hlock : DaemonProcess.holds ⟨p.pid, phase⟩ = true → readPid s'.pidFile = some p.pid)
    (hsock : DaemonProcess.listens ⟨p.pid, phase⟩ = true → s'.socket = .bound i) :
    (s'.goTo i phase).Guarded := by
  have hread : ∀ {j : ℕ} {q : DaemonProcess}, (s'.goTo i phase).processes[j]? = some q →
      j ≠ i ∧ s.processes[j]? = some q ∨ j = i ∧ q = { p with phase := phase } := by
    intro j q hq
    rcases Home.getElem?_goTo hq with ⟨hne, hq⟩ | ⟨rfl, p', hp', rfl⟩
    · rw [hprocesses] at hq
      exact Or.inl ⟨hne, hq⟩
    · rw [hprocesses, hp] at hp'
      cases hp'
      exact Or.inr ⟨rfl, rfl⟩
  -- a process behind the step had its pid before, and was live if it is
  have hbefore : ∀ {j : ℕ} {q : DaemonProcess}, (s'.goTo i phase).processes[j]? = some q →
      ∃ q', s.processes[j]? = some q' ∧ q'.pid = q.pid ∧ (q.isLive = true → q'.isLive = true) := by
    intro j q hq
    rcases hread hq with ⟨-, hq⟩ | ⟨rfl, rfl⟩
    · exact ⟨q, hq, rfl, id⟩
    · refine ⟨p, hp, rfl, fun hq => ?_⟩
      rcases hlive with hlive | rfl
      · exact hlive
      · cases hq
  constructor
  · intro j q hq
    obtain ⟨q', hq', hpid, -⟩ := hbefore hq
    rw [← hpid]
    exact h.pos j q' hq'
  · intro j k q r hq hr hlq hlr hpid
    obtain ⟨q', hq', hpidq, hliveq⟩ := hbefore hq
    obtain ⟨r', hr', hpidr, hliver⟩ := hbefore hr
    exact h.pids j k q' r' hq' hr' (hliveq hlq) (hliver hlr) (by rw [hpidq, hpidr, hpid])
  · intro j q hq hholds
    rcases hread hq with ⟨hne, hq⟩ | ⟨rfl, rfl⟩
    · exact (hothers j q hne hq hholds).1.trans (h.lock j q hq hholds)
    · exact hlock hholds
  · intro j q hq hlistens
    rcases hread hq with ⟨hne, hq⟩ | ⟨rfl, rfl⟩
    · exact (hothers j q hne hq (DaemonProcess.holds_of_listens hlistens)).2.trans
        (h.sock j q hq hlistens)
    · exact hsock hlistens

lemma spawn (h : s.Guarded) (pid : ℕ) {phase : DaemonPhase}
    (hphase : DaemonProcess.holds ⟨pid, phase⟩ = false) : (s.spawn pid phase).Guarded := by
  rw [Home.spawn]
  split
  · exact h
  · next hfree =>
    rw [not_or] at hfree
    obtain ⟨hzero, hdead⟩ := hfree
    constructor
    · intro j q hq
      rcases getElem?_snoc hq with hq | ⟨-, rfl⟩
      · exact h.pos j q hq
      · exact Nat.pos_of_ne_zero hzero
    · intro j k q r hq hr hlq hlr hpid
      rcases getElem?_snoc hq with hq | ⟨rfl, rfl⟩
      · rcases getElem?_snoc hr with hr | ⟨rfl, rfl⟩
        · exact h.pids j k q r hq hr hlq hlr hpid
        · have hpid' : q.pid = pid := hpid
          rw [← hpid'] at hdead
          exact absurd (Home.isAlive_of_live hq hlq) hdead
      · rcases getElem?_snoc hr with hr | ⟨rfl, rfl⟩
        · have hpid' : pid = r.pid := hpid
          rw [hpid'] at hdead
          exact absurd (Home.isAlive_of_live hr hlr) hdead
        · rfl
    · intro j q hq hholds
      rcases getElem?_snoc hq with hq | ⟨-, rfl⟩
      · exact h.lock j q hq hholds
      · rw [hphase] at hholds
        cases hholds
    · intro j q hq hlistens
      rcases getElem?_snoc hq with hq | ⟨-, rfl⟩
      · exact h.sock j q hq hlistens
      · rw [DaemonProcess.holds_of_listens hlistens] at hphase
        cases hphase

lemma react (h : s.Guarded) {e : HomeEvent} (hc : s.isOrderly e = true) : (s.react e).Guarded := by
  cases e with
  | start pid => exact h.spawn pid rfl
  | stop pid => exact h.spawn pid rfl
  | step i ok =>
    rw [Home.react]
    split
    · exact h
    · next p hp =>
      rcases Home.advance_cases s i ok p (h.pos i p hp) with
        hsame | ⟨s', phase, hgo, hstepped⟩
      · rw [hsame]
        exact h
      · rw [hgo]
        refine h.goTo hstepped.processes hp (Or.inl hstepped.live) ?_
          (hstepped.lock (h.lock i p hp)) hstepped.socket
        intro j q hne hq hholds
        cases htouches : p.touches with
        | false =>
          obtain ⟨hfile, hsocket⟩ := hstepped.files htouches
          exact ⟨by rw [hfile], hsocket⟩
        | true =>
          rw [h.not_holds hc hp htouches hq hne] at hholds
          cases hholds
  | close i =>
    rw [Home.react]
    split
    · next pid hp =>
      exact h.goTo rfl hp (Or.inl rfl) (fun _ _ _ _ _ => ⟨rfl, rfl⟩) (fun _ => h.lock i _ hp rfl)
        (fun _ => h.sock i _ hp rfl)
    · exact h
  | crash i =>
    cases hp : s.processes[i]? with
    | none =>
      have hsame : s.react (.crash i) = s := by
        rw [Home.react, Home.goTo, List.modify_eq_self]
        exact List.getElem?_eq_none_iff.1 hp
      rw [hsame]
      exact h
    | some p =>
      exact h.goTo rfl hp (Or.inr rfl) (fun _ _ _ _ _ => ⟨rfl, rfl⟩) (fun hholds => (by cases hholds))
        (fun hlistens => (by cases hlistens))
  | others pids => exact ⟨h.pos, h.pids, h.lock, h.sock⟩

/-- The files of a process that holds the lock stay as they are while others take steps in order. -/
lemma files_react (h : s.Guarded) {e : HomeEvent} (hc : s.isOrderly e = true)
    (hp : s.processes[i]? = some p) (hholds : p.holds = true) (he : ∀ ok, e ≠ .step i ok) :
    (s.react e).pidFile = s.pidFile ∧ (s.react e).socket = s.socket := by
  cases e with
  | start pid =>
    rw [Home.react, Home.spawn]
    split <;> exact ⟨rfl, rfl⟩
  | stop pid =>
    rw [Home.react, Home.spawn]
    split <;> exact ⟨rfl, rfl⟩
  | step j ok =>
    rw [Home.react]
    split
    · exact ⟨rfl, rfl⟩
    · next q hq =>
      have hne : i ≠ j := fun heq => he ok (by rw [heq])
      rcases Home.advance_cases s j ok q (h.pos j q hq) with hsame | ⟨s', phase, hgo, hstepped⟩
      · rw [hsame]
        exact ⟨rfl, rfl⟩
      · rw [hgo]
        cases htouches : q.touches with
        | false => exact hstepped.files htouches
        | true =>
          rw [h.not_holds hc hq htouches hp hne] at hholds
          cases hholds
  | close j =>
    rw [Home.react]
    split <;> exact ⟨rfl, rfl⟩
  | crash j => exact ⟨rfl, rfl⟩
  | others pids => exact ⟨rfl, rfl⟩

end Home.Guarded

variable {pidFile} {stale} {es}

lemma guarded_run
    (hes : (homeMachine pidFile stale).Meets (fun s e => s.isOrderly e = true) es) :
    ((homeMachine pidFile stale).run es).Guarded := by
  refine (homeMachine pidFile stale).invariant_of_meets (p := Home.Guarded) ?_ ?_ hes
  · constructor
    · intro i p hp
      cases hp
    · intro i j p q hp
      cases hp
    · intro i p hp
      cases hp
    · intro i p hp
      cases hp
  · intro s e hc h
    exact h.react hc

/-- **The singleton.** While a lock that was judged stale is only removed as it was judged, and a lock
only written where none is, one daemon at a time holds the lock and listens, and nobody else touches
its files. -/
theorem singletonLaw_of_orderly (pidFile : Option JsString) (stale : Bool) (es : List HomeEvent)
    (hes : (homeMachine pidFile stale).Meets (fun s e => s.isOrderly e = true) es) :
    SingletonLaw pidFile stale es := by
  constructor
  · intro i j p q hp hq hi hj
    exact (guarded_run hes).alone hp hq hi hj
  · intro i p hp hlistens
    have hholds := DaemonProcess.holds_of_listens hlistens
    exact ⟨hholds, (guarded_run hes).lock i p hp hholds, (guarded_run hes).sock i p hp hlistens⟩
  · rintro pre e post rfl i p hp hholds he
    rw [Machine.run_snoc]
    exact ((guarded_run hes.prefix).files_react (hes pre e post rfl) hp hholds he).1
  · rintro pre e post rfl i p hp hlistens he
    rw [Machine.run_snoc]
    exact ((guarded_run hes.prefix).files_react (hes pre e post rfl) hp
      (DaemonProcess.holds_of_listens hlistens) he).2

/-- The steps of a process, one after the other. -/
def stepsOf (i n : ℕ) : List HomeEvent := List.replicate n (.step i true)

/-- A daemon that starts over the files of a crashed one, and another that finds it running. -/
theorem singletonLaw_restarted : SingletonLaw (some (pidText 99)) true
    ([.start 7] ++ stepsOf 0 7 ++ [.start 8] ++ stepsOf 1 2) :=
  singletonLaw_of_orderly _ _ _ (Machine.meets_of_checks _ (by decide +kernel))

/-- Two daemons that find the same stale lock both end up serving. -/
theorem not_singletonLaw_bothStale : ¬ ∀ pidFile stale es, SingletonLaw pidFile stale es := by
  intro hall
  have hboth : ((homeMachine (some (pidText 99)) true).run ([.start 7, .start 8] ++ stepsOf 0 2 ++
      stepsOf 1 2 ++ stepsOf 0 5 ++ stepsOf 1 5)).processes =
      [⟨7, .serving⟩, ⟨8, .serving⟩] := by
    decide +kernel
  have hone := (hall (some (pidText 99)) true ([.start 7, .start 8] ++ stepsOf 0 2 ++ stepsOf 1 2 ++
    stepsOf 0 5 ++ stepsOf 1 5)).alone 0 1 ⟨7, .serving⟩ ⟨8, .serving⟩ (by rw [hboth]; rfl)
    (by rw [hboth]; rfl) rfl rfl
  cases hone

end Pherry.Cli
