import VulnScan.Scan.Tracer

/-! # The timers of a tracer

A tracer has one timer per phase. While a scan works exactly the timer of its stage runs
(`Tracer.Sound`), and at any later time the three timers together show the time since the start of
the scan (`Tracer.Accounts`): whenever one is stopped the next is started. In the end all have
stopped, and together they show the time that the scan took (`Tracer.Complete`).
-/

set_option autoImplicit false

namespace VulnScan.Scan.Tracer

variable {t t' : Tracer} {start now later : Nat} {selected : List Selected}

/-! ## Calls -/

/-- The calls to a tracer that it does not take at any time. -/
inductive Call where
  | startPortScanning
  | startFingerprinting
  | startDetecting
  | setDone
  | trace

/-- What a tracer insists on when it is called: on the stage that it is in, and on which of its
timers run. -/
def Permits (t : Tracer) : Call → Prop
  | .startPortScanning => t.stage = .start
  | .startFingerprinting => t.stage = .portScanning ∧ t.portScanning.watch.isRunning = true
  | .startDetecting => t.stage = .fingerprinting ∧ t.fingerprinting.watch.isRunning = true
  | .setDone => t.stage = .detecting ∧ t.portScanning.watch.isRunning = false ∧
      t.fingerprinting.watch.isRunning = false ∧ t.detecting.watch.isRunning = true
  | .trace => t.isDone = true

/-! ## Which timer runs -/

/-- The timer of the stage runs, and no other. -/
structure Sound (t : Tracer) : Prop where
  scanning : t.portScanning.watch.isRunning = decide (t.stage = .portScanning)
  identifying : t.fingerprinting.watch.isRunning = decide (t.stage = .fingerprinting)
  detecting : t.detecting.watch.isRunning = decide (t.stage = .detecting)

theorem sound_fresh : fresh.Sound := ⟨rfl, rfl, rfl⟩

/-- A step from one stage to another is taken only in the first. -/
theorem eq_of_expect {stage : Stage} {next : Tracer} (h : t.expect stage next = .ok t') :
    t.stage = stage ∧ t' = next := by
  unfold expect at h
  split at h
  · next hstage => exact ⟨hstage, (Except.ok.inj h).symm⟩
  · cases h

/-- A sound tracer that is in a stage permits what begins the next one. -/
theorem Sound.permits (h : t.Sound) :
    (t.stage = .start → t.Permits .startPortScanning) ∧
      (t.stage = .portScanning → t.Permits .startFingerprinting) ∧
      (t.stage = .fingerprinting → t.Permits .startDetecting) ∧
      (t.stage = .detecting → t.Permits .setDone) := by
  obtain ⟨h₁, h₂, h₃⟩ := h
  refine ⟨id, fun hstage => ?_, fun hstage => ?_, fun hstage => ?_⟩
  · exact ⟨hstage, by rw [h₁, hstage]; rfl⟩
  · exact ⟨hstage, by rw [h₂, hstage]; rfl⟩
  · exact ⟨hstage, by rw [h₁, hstage]; rfl, by rw [h₂, hstage]; rfl, by rw [h₃, hstage]; rfl⟩

theorem Sound.startPortScanning (h : t.Sound) (ht : t.startPortScanning now selected = .ok t') :
    t'.Sound := by
  obtain ⟨hstage, rfl⟩ := eq_of_expect ht
  obtain ⟨-, h₂, h₃⟩ := h
  rw [hstage] at h₂ h₃
  exact ⟨rfl, h₂, h₃⟩

theorem Sound.startFingerprinting (h : t.Sound) (ht : t.startFingerprinting now selected = .ok t') :
    t'.Sound := by
  obtain ⟨hstage, rfl⟩ := eq_of_expect ht
  obtain ⟨-, -, h₃⟩ := h
  rw [hstage] at h₃
  exact ⟨Time.Stopwatch.isRunning_stop _ _, rfl, h₃⟩

theorem Sound.startDetecting (h : t.Sound) (ht : t.startDetecting now selected = .ok t') :
    t'.Sound := by
  obtain ⟨hstage, rfl⟩ := eq_of_expect ht
  obtain ⟨h₁, -, -⟩ := h
  rw [hstage] at h₁
  exact ⟨h₁, Time.Stopwatch.isRunning_stop _ _, rfl⟩

/-! ## What the timers show -/

/-- The nanoseconds that the timers of all phases show together. -/
def runtime (now : Nat) (t : Tracer) : Nat :=
  t.portScanning.watch.total now + t.fingerprinting.watch.total now + t.detecting.watch.total now

/-- Of a scan that began at `start` and works, the timers show all of the time from now on. -/
structure Accounts (start now : Nat) (t : Tracer) : Prop where
  sound : t.Sound
  begun : start ≤ now
  runtime : ∀ later, now ≤ later → t.runtime later = later - start

/-- As time passes, the timers go on to show all of it. -/
theorem Accounts.onward (h : t.Accounts start now) (hlater : now ≤ later) :
    t.Accounts start later :=
  ⟨h.sound, Nat.le_trans h.begun hlater, fun _ hl => h.runtime _ (Nat.le_trans hlater hl)⟩

/-- The scan begins, and so does its first phase. -/
theorem accounts_startPortScanning (ht : fresh.startPortScanning now selected = .ok t') :
    t'.Accounts now now := by
  refine ⟨sound_fresh.startPortScanning ht, Nat.le_refl _, fun later _ => ?_⟩
  obtain ⟨-, rfl⟩ := eq_of_expect ht
  have hfresh : ∀ n, Time.Stopwatch.fresh.total n = 0 := fun _ => rfl
  have htotal := Time.Stopwatch.total_start (s := .fresh) rfl now later
  simp only [Tracer.runtime, Phase.begin, fresh, htotal, hfresh]
  omega

/-- When one phase follows another, one timer goes on where the other stops. -/
theorem Accounts.startFingerprinting (h : t.Accounts start now)
    (ht : t.startFingerprinting now selected = .ok t') : t'.Accounts start now := by
  refine ⟨h.sound.startFingerprinting ht, h.begun, fun later hlater => ?_⟩
  obtain ⟨hstage, rfl⟩ := eq_of_expect ht
  have hstopped : t.fingerprinting.watch.isRunning = false := by
    rw [h.sound.identifying, hstage]
    rfl
  have hdetecting : t.detecting.watch.isRunning = false := by
    rw [h.sound.detecting, hstage]
    rfl
  have hnow := h.runtime now (Nat.le_refl _)
  have hbegun := h.begun
  simp only [Tracer.runtime, Phase.begin, Phase.finish, Time.Stopwatch.total_stop,
    Time.Stopwatch.total_start hstopped,
    Time.Stopwatch.total_eq_of_not_isRunning hdetecting now later] at hnow ⊢
  omega

theorem Accounts.startDetecting (h : t.Accounts start now)
    (ht : t.startDetecting now selected = .ok t') : t'.Accounts start now := by
  refine ⟨h.sound.startDetecting ht, h.begun, fun later hlater => ?_⟩
  obtain ⟨hstage, rfl⟩ := eq_of_expect ht
  have hscanning : t.portScanning.watch.isRunning = false := by
    rw [h.sound.scanning, hstage]
    rfl
  have hstopped : t.detecting.watch.isRunning = false := by
    rw [h.sound.detecting, hstage]
    rfl
  have hnow := h.runtime now (Nat.le_refl _)
  have hbegun := h.begun
  simp only [Tracer.runtime, Phase.begin, Phase.finish, Time.Stopwatch.total_stop,
    Time.Stopwatch.total_start hstopped,
    Time.Stopwatch.total_eq_of_not_isRunning hscanning now later] at hnow ⊢
  omega

/-! ## The end of a scan -/

/-- The scan is over: it began at `start` and ended at `stop`, no timer runs any more, the timers
together show the time in between, whenever they are read, and the trace can be had. -/
structure Complete (start stop : Nat) (t : Tracer) : Prop where
  stage : t.stage = .done
  stopped : t.portScanning.watch.isRunning = false ∧ t.fingerprinting.watch.isRunning = false ∧
    t.detecting.watch.isRunning = false
  runtime : ∀ now, t.runtime now = stop - start
  trace : ∀ now findings, ∃ text, t.text now findings = .ok text

/-- A scan that is over can show its trace. -/
theorem text_of_isDone (h : t.isDone = true) (now findings : Nat) :
    ∃ text, t.text now findings = .ok text := ⟨_, if_pos h⟩

theorem Accounts.forceDone (h : t.Accounts start now) : (t.forceDone now).Complete start now := by
  refine ⟨rfl, ⟨Time.Stopwatch.isRunning_stop _ _, Time.Stopwatch.isRunning_stop _ _,
    Time.Stopwatch.isRunning_stop _ _⟩, fun later => ?_, text_of_isDone rfl⟩
  have hnow := h.runtime now (Nat.le_refl _)
  simpa only [Tracer.runtime, Tracer.forceDone, Phase.finish, Time.Stopwatch.total_stop] using hnow

/-- A scan that has not begun its first phase took no time. -/
theorem complete_forceDone_fresh (now : Nat) : (fresh.forceDone now).Complete now now :=
  ⟨rfl, ⟨rfl, rfl, rfl⟩, fun _ => (Nat.sub_self now).symm, text_of_isDone rfl⟩

theorem Accounts.setDone (h : t.Accounts start now) (ht : t.setDone now = .ok t') :
    t'.Complete start now := by
  obtain ⟨hstage, rfl⟩ := eq_of_expect ht
  have hscanning : t.portScanning.watch.isRunning = false := by
    rw [h.sound.scanning, hstage]
    rfl
  have hidentifying : t.fingerprinting.watch.isRunning = false := by
    rw [h.sound.identifying, hstage]
    rfl
  refine ⟨rfl, ⟨hscanning, hidentifying, Time.Stopwatch.isRunning_stop _ _⟩, fun later => ?_,
    text_of_isDone rfl⟩
  have hnow := h.runtime now (Nat.le_refl _)
  simpa only [Tracer.runtime, Phase.finish, Time.Stopwatch.total_stop,
    Time.Stopwatch.total_eq_of_not_isRunning hscanning now later,
    Time.Stopwatch.total_eq_of_not_isRunning hidentifying now later] using hnow

end VulnScan.Scan.Tracer
