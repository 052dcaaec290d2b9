import Mathlib.Tactic
import GuardTime.Household
import GuardTime.Services.Reads
import GuardTime.Services.UsageLogs

/-! # Usage totals

`getDailyUsage` adds the seconds of the logs up in a plain object keyed by the name of the app. The
names come from the agents. The totals are right exactly when no name is a member of
`Object.prototype`: such a name starts from the text of the inherited member instead of from zero,
and `__proto__` gets no key at all.

`getWeeklyUsage` does the same with days for keys. No member is named like a day, so the totals of a
week are always right. -/

namespace GuardTime.Usage.Totals

open GuardTime.Lib.Program GuardTime.Lib.Keyed GuardTime.Lib.Js GuardTime.Lib.JsObject
open GuardTime.Schema GuardTime.Server GuardTime.Prisma GuardTime.Services
open GuardTime.Services.UsageLogs

/-- The logs of a child between two instants. -/
def logsOf (usageLogs : Table UsageLog.id) (childId : String) (first last : Time) :
    List UsageLog :=
  usageLogs.rows.filter fun log =>
    log.childId = childId && first ≤ log.loggedAt && log.loggedAt ≤ last

/-- The seconds of an app. -/
def secondsOf (logs : List UsageLog) (k : String) : ℤ :=
  ((logs.filter fun log => appKey log = k).map UsageLog.durationSec).sum

/-- The totals of a summary are those of the logs.

* `values`: every key holds the sum of the seconds of its app;
* `keys`: every app is a key;
* `sum`: the values are numbers, and sum to `totalSeconds`. -/
structure Conserved (logs : List UsageLog) (usage : DailyUsage) : Prop where
  values : ∀ k p, (k, p) ∈ usage.byApp → p = .number (secondsOf logs k)
  keys : ∀ log ∈ logs, ∃ p, (appKey log, p) ∈ usage.byApp
  sum : ∃ ns : List ℤ, usage.byApp.map Prod.snd = ns.map .number ∧ ns.sum = usage.totalSeconds

/-- The entries the loop goes through. -/
def entriesOf (logs : List UsageLog) : List (String × ℤ) :=
  logs.map fun log => (appKey log, log.durationSec)

theorem total_entriesOf (logs : List UsageLog) (k : String) :
    total (entriesOf logs) k = secondsOf logs k := by
  unfold total entriesOf secondsOf
  rw [List.filter_map, List.map_map]
  rfl

/-- The seconds of the logs are those of the entries, whatever the keys. -/
theorem foldl_durationSec (key : UsageLog → String) (logs : List UsageLog) :
    logs.foldl (fun sum log => sum + log.durationSec) 0 =
      ((logs.map fun log => (key log, log.durationSec)).map Prod.snd).sum := by
  have hmap : (logs.map fun log => (key log, log.durationSec)).map Prod.snd =
      logs.map UsageLog.durationSec := by
    rw [List.map_map]
    rfl
  rw [hmap, List.sum_eq_foldl, List.foldl_map]

theorem totalSeconds_eq (childId : String) (t : Time) (logs : List UsageLog) :
    (summary childId t logs).totalSeconds = ((entriesOf logs).map Prod.snd).sum :=
  foldl_durationSec appKey logs

/-- **Totals of found logs.** -/
theorem conserved_summary_iff (childId : String) (t : Time) (logs : List UsageLog) :
    Conserved logs (summary childId t logs) ↔ ∀ log ∈ logs, appKey log ∉ inherited := by
  have hobj : (summary childId t logs).byApp = tally (entriesOf logs) := rfl
  constructor
  · intro h log hlog hinherited
    obtain ⟨p, hp⟩ := h.keys log hlog
    obtain ⟨p', hown⟩ := own?_of_mem hp
    have hnumber := h.values _ p' (mem_of_own? hown)
    rw [hobj] at hown
    rcases spoilt_tally hinherited (entriesOf logs) with hnone | ⟨s, -, htext⟩
    · rw [hnone] at hown
      cases hown
    · rw [htext, hnumber] at hown
      cases hown
  · intro h
    have hentries : ∀ e ∈ entriesOf logs, e.1 ∉ inherited := by
      intro e he
      obtain ⟨log, hlog, rfl⟩ := List.mem_map.mp he
      exact h log hlog
    have hbooks := books_counts (entriesOf logs)
    rw [tally_eq_counts hentries] at hobj
    refine ⟨?_, ?_, ?_⟩
    · intro k p hp
      rw [hobj] at hp
      obtain ⟨⟨k', n⟩, hmem, heq⟩ := List.mem_map.mp hp
      cases heq
      rw [hbooks.number _ n hmem, total_entriesOf]
    · intro log hlog
      have hkey : appKey log ∈ (entriesOf logs).map Prod.fst :=
        List.mem_map.mpr ⟨_, List.mem_map_of_mem hlog, rfl⟩
      obtain ⟨⟨k', n⟩, hmem, heq⟩ := List.mem_map.mp ((hbooks.keys _).mpr hkey)
      change k' = appKey log at heq
      refine ⟨.number n, ?_⟩
      rw [hobj]
      exact List.mem_map.mpr ⟨(k', n), hmem, by rw [← heq]⟩
    · refine ⟨(counts (entriesOf logs)).map Prod.snd, ?_, ?_⟩
      · rw [hobj, numbers, List.map_map, List.map_map]
        rfl
      · rw [hbooks.sum, totalSeconds_eq]

/-! ### The endpoint -/

section Run
variable {env : Env} {endOfDay : Time → Time} {usageLogs : Table UsageLog.id}
  {parentId childId : String} {date : Option Time} {w w' : World} {usage : DailyUsage}

theorem run_assertChildOwnership {u : Unit}
    (h : (assertChildOwnership parentId childId).run w = (.ok u, w')) :
    w' = World.afterCall w w.db := by
  unfold assertChildOwnership at h
  obtain ⟨_, w₁, hrequire, hfind⟩ := Prog.run_bind_ok.mp h
  obtain ⟨child?, w₂, hchild, hthrow⟩ := Prog.run_bind_ok.mp hfind
  obtain ⟨child, w₃, hfound, howner⟩ := Prog.run_bind_ok.mp hthrow
  rw [(Prog.run_require_ok.mp howner).2, (Prog.run_orThrow_ok.mp hfound).2,
    (run_findUnique_ok.mp hchild).2, (Prog.run_require_ok.mp hrequire).2]

/-- The clock is read when the check has passed. -/
theorem now_of_owner {u : Unit} {now : Time} {w₁ w₂ : World}
    (howner : (assertChildOwnership parentId childId).run w = (.ok u, w₁))
    (hnow : newDate.run w₁ = (.ok now, w₂)) : now = w.now := by
  rw [run_assertChildOwnership howner] at hnow
  cases hnow
  rfl

/-- What is answered is the summary of the day's logs, in some order. -/
theorem run_getDailyUsage
    (h : (getDailyUsage env endOfDay usageLogs parentId childId date).run w = (.ok usage, w')) :
    ∃ logs, logs.Perm (logsOf usageLogs childId (env.zone.startOfDay (date.getD w.now))
        (endOfDay (date.getD w.now))) ∧
      usage = summary childId (env.zone.startOfDay (date.getD w.now)) logs := by
  unfold getDailyUsage at h
  obtain ⟨_, w₁, howner, hrest⟩ := Prog.run_bind_ok.mp h
  obtain ⟨now, w₂, hnow, hquery⟩ := Prog.run_bind_ok.mp hrest
  obtain ⟨logs, w₃, hlogs, hanswer⟩ := Prog.run_bind_ok.mp hquery
  obtain rfl := now_of_owner howner hnow
  cases hanswer
  refine ⟨logs, ?_, rfl⟩
  rw [(run_query_ok.mp hlogs).1]
  exact arrange_perm _ _

/-- The order of the logs does not matter. -/
theorem conserved_of_perm {logs logs' : List UsageLog} (hperm : logs.Perm logs')
    (h : Conserved logs usage) : Conserved logs' usage where
  values k p hp := by
    have hsum : secondsOf logs k = secondsOf logs' k :=
      ((hperm.filter _).map UsageLog.durationSec).sum_eq
    rw [h.values k p hp, hsum]
  keys log hlog := h.keys log (hperm.mem_iff.mpr hlog)
  sum := h.sum

/-- **When the totals of a day are right.** The answer to `getDailyUsage` sums the seconds of the
day's logs by app exactly when no log's app is named like a member of `Object.prototype`. -/
theorem daily_usage_conserved_iff
    (h : (getDailyUsage env endOfDay usageLogs parentId childId date).run w = (.ok usage, w')) :
    Conserved (logsOf usageLogs childId (env.zone.startOfDay (date.getD w.now))
        (endOfDay (date.getD w.now))) usage ↔
      ∀ log ∈ logsOf usageLogs childId (env.zone.startOfDay (date.getD w.now))
        (endOfDay (date.getD w.now)), appKey log ∉ inherited := by
  obtain ⟨logs, hperm, rfl⟩ := run_getDailyUsage h
  have hsummary := conserved_summary_iff childId (env.zone.startOfDay (date.getD w.now)) logs
  constructor
  · intro hconserved log hlog
    exact hsummary.mp (conserved_of_perm hperm.symm hconserved) log (hperm.mem_iff.mpr hlog)
  · intro hall
    refine conserved_of_perm hperm (hsummary.mpr fun log hlog => ?_)
    exact hall log (hperm.mem_iff.mp hlog)

end Run

/-! ### Weeks -/

theorem isDigit_padStart {n k : ℕ} {c : Char} (h : c ∈ (padStart n k).toList) :
    c.isDigit = true := by
  unfold padStart at h
  rw [String.toList_append, String.toList_ofList, Nat.toString_eq_ofList_toDigits,
    String.toList_ofList] at h
  rcases List.mem_append.mp h with hzero | hdigit
  · rw [List.eq_of_mem_replicate hzero]
    decide
  · exact Nat.isDigit_of_mem_toDigits (by decide) (by decide) hdigit

/-- The part before the clock. -/
theorem toList_toISOString (t : Time) : ∃ (year month day : ℕ) (rest : List Char),
    (toISOString t).toList = ((padStart year 4).toList ++ ("-".toList ++
      ((padStart month 2).toList ++ ("-".toList ++ (padStart day 2).toList)))) ++
        ("T".toList ++ rest) := by
  unfold toISOString
  simp only [String.toList_append, List.append_assoc]
  exact ⟨_, _, _, _, rfl⟩

/-- A day is written with hyphens. -/
theorem hyphen_mem_dayOf (t : Time) : '-' ∈ (dayOf t).toList := by
  obtain ⟨year, month, day, rest, hiso⟩ := toList_toISOString t
  have hhyphen : "-".toList = ['-'] := by decide
  have hT : "T".toList ++ rest = 'T' :: rest := rfl
  have hdate : 'T' ∉ (padStart year 4).toList ++ (['-'] ++ ((padStart month 2).toList ++
      (['-'] ++ (padStart day 2).toList))) := by
    intro h
    simp only [List.mem_append, List.mem_singleton] at h
    rcases h with h | h | h | h | h
    · exact absurd (isDigit_padStart h) (by decide)
    · exact absurd h (by decide)
    · exact absurd (isDigit_padStart h) (by decide)
    · exact absurd h (by decide)
    · exact absurd (isDigit_padStart h) (by decide)
  rw [hhyphen, hT] at hiso
  unfold dayOf split
  rw [hiso, List.splitOn_append_cons_self_of_not_mem hdate, List.map_cons, List.headD_cons,
    String.toList_ofList]
  simp

/-- No member of `Object.prototype` is named like a day. -/
theorem dayOf_notMem_inherited (t : Time) : dayOf t ∉ inherited := by
  intro h
  have hnames : ∀ k ∈ inherited, '-' ∉ k.toList := by decide
  exact hnames _ h (hyphen_mem_dayOf t)

/-- The logs of a child since an instant. -/
def logsSince (usageLogs : Table UsageLog.id) (childId : String) (start : Time) : List UsageLog :=
  usageLogs.rows.filter fun log => log.childId = childId && start ≤ log.loggedAt

/-- The seconds of logs with their days. -/
def dayEntries (logs : List UsageLog) : List (String × ℤ) :=
  logs.map fun log => (dayOf log.loggedAt, log.durationSec)

theorem weekSeconds_eq (childId : String) (start : Time) (logs : List UsageLog) :
    (weekSummary childId start logs).totalSeconds = ((dayEntries logs).map Prod.snd).sum :=
  foldl_durationSec (fun log => dayOf log.loggedAt) logs

section Week
variable {startOfWeek : Time → Time} {usageLogs : Table UsageLog.id}
  {parentId childId deviceId : String} {w w' : World}

/-- What is answered is the summary of the week's logs, in some order. -/
theorem run_getWeeklyUsage {usage : WeeklyUsage}
    (h : (getWeeklyUsage startOfWeek usageLogs parentId childId).run w = (.ok usage, w')) :
    ∃ logs, logs.Perm (logsSince usageLogs childId (startOfWeek w.now)) ∧
      usage = weekSummary childId (startOfWeek w.now) logs := by
  unfold getWeeklyUsage at h
  obtain ⟨_, w₁, howner, hrest⟩ := Prog.run_bind_ok.mp h
  obtain ⟨now, w₂, hnow, hquery⟩ := Prog.run_bind_ok.mp hrest
  obtain ⟨logs, w₃, hlogs, hanswer⟩ := Prog.run_bind_ok.mp hquery
  obtain rfl := now_of_owner howner hnow
  cases hanswer
  refine ⟨logs, ?_, rfl⟩
  rw [(run_query_ok.mp hlogs).1]
  exact (List.perm_insertionSort _ _).trans (arrange_perm _ _)

/-- **The totals of a week are right.** The answer to `getWeeklyUsage` sums the seconds of the
week's logs by day, whatever the logs are. -/
theorem weekly_usage_conserved {usage : WeeklyUsage}
    (h : (getWeeklyUsage startOfWeek usageLogs parentId childId).run w = (.ok usage, w')) :
    ∃ c, usage.byDay = numbers c ∧
      Books (dayEntries (logsSince usageLogs childId (startOfWeek w.now))) c ∧
      (c.map Prod.snd).sum = usage.totalSeconds := by
  obtain ⟨logs, hperm, rfl⟩ := run_getWeeklyUsage h
  have hobj : (weekSummary childId (startOfWeek w.now) logs).byDay = tally (dayEntries logs) := rfl
  have hdays : ∀ e ∈ dayEntries logs, e.1 ∉ inherited := by
    unfold dayEntries
    rw [List.forall_mem_map]
    intro log _
    dsimp only
    exact dayOf_notMem_inherited log.loggedAt
  have hbooks := books_counts (dayEntries logs)
  refine ⟨counts (dayEntries logs), ?_, hbooks.perm (hperm.map _), ?_⟩
  · rw [hobj, tally_eq_counts hdays]
  · rw [hbooks.sum, weekSeconds_eq]

/-- **The recent logs of a device.** The answer to `getDeviceUsage` is about the hundred latest
logs, or all of them. -/
theorem device_usage_recent {usage : DeviceUsage}
    (h : (getDeviceUsage usageLogs parentId deviceId).run w = (.ok usage, w')) :
    ∃ older, (usage.recentLogs ++ older).Perm
        (usageLogs.rows.filter fun log => log.deviceId = deviceId) ∧
      (usage.recentLogs ++ older).Pairwise (fun log log' => log'.loggedAt ≤ log.loggedAt) ∧
      (100 ≤ usage.recentLogs.length ∨ older = []) ∧
      usage.totalSeconds = (usage.recentLogs.map UsageLog.durationSec).sum := by
  unfold getDeviceUsage at h
  obtain ⟨_, w₁, -, hquery⟩ := Prog.run_bind_ok.mp h
  obtain ⟨logs, w₂, hlogs, hanswer⟩ := Prog.run_bind_ok.mp hquery
  obtain ⟨sorted, hperm, hsorted, rfl⟩ : ∃ sorted : List UsageLog,
      sorted.Perm (usageLogs.rows.filter fun log => log.deviceId = deviceId) ∧
        sorted.Pairwise (fun log log' => log'.loggedAt ≤ log.loggedAt) ∧
          logs = sorted.take 100 := by
    refine ⟨_, ?_, ?_, (run_query_ok.mp hlogs).1⟩
    · exact (List.perm_insertionSort _ _).trans (arrange_perm _ _)
    · exact List.pairwise_insertionSort _ _
  cases hanswer
  refine ⟨sorted.drop 100, ?_⟩
  dsimp only
  rw [List.take_append_drop]
  refine ⟨hperm, hsorted, ?_, ?_⟩
  · rw [List.length_take, List.drop_eq_nil_iff]
    omega
  · rw [List.sum_eq_foldl, List.foldl_map]

end Week

/-! ### Evenings -/

/-- A minute in an app of the given name on the computer of `adam`. -/
def minuteIn (appName : String) : Table UsageLog.id :=
  ⟨[⟨"log", "laptop", "adam", some appName, none, 60, 0⟩], List.nodup_singleton _⟩

/-- The answer to the parent of `adam` on that day. -/
def answer (appName : String) : DailyUsage :=
  summary "adam" 0 [⟨"log", "laptop", "adam", some appName, none, 60, 0⟩]

theorem run_answer (appName : String) :
    (getDailyUsage Env.plain (· + 86399999) (minuteIn appName) "amal" "adam" none).run
      (World.fresh Household.families 0) =
    (.ok (answer appName), World.afterCall
      (World.afterCall (World.fresh Household.families 0) Household.families)
      Household.families) := rfl

/-- Two games of chess, a map and an app without a name. -/
def eveningLogs : List UsageLog :=
  [⟨"log1", "laptop", "adam", some "Chess", none, 60, 0⟩,
    ⟨"log2", "phone", "adam", some "Maps", some "SOCIAL", 300, 3600000⟩,
    ⟨"log3", "phone", "adam", none, none, 30, 7200000⟩,
    ⟨"log4", "laptop", "adam", some "Chess", none, 90, 86399999⟩]

/-- The table with them, and a log of the day after. -/
def evening : Table UsageLog.id :=
  ⟨eveningLogs ++ [⟨"log5", "laptop", "adam", some "constructor", none, 60, 86400000⟩], by decide⟩

theorem run_evening :
    (getDailyUsage Env.plain (· + 86399999) evening "amal" "adam" none).run
      (World.fresh Household.families 0) =
    (.ok (summary "adam" 0 eveningLogs), World.afterCall
      (World.afterCall (World.fresh Household.families 0) Household.families)
      Household.families) := rfl

theorem daily_usage_conserved_evening :
    Conserved (logsOf evening "adam" 0 86399999) (summary "adam" 0 eveningLogs) :=
  (daily_usage_conserved_iff run_evening).mpr (by decide)

/-- A minute in an app called `constructor` is answered as a text. -/
theorem constructor_spoils : ¬ ∀ (env : Env) (endOfDay : Time → Time)
    (usageLogs : Table UsageLog.id) (parentId childId : String) (date : Option Time)
    (w w' : World) (usage : DailyUsage),
    (getDailyUsage env endOfDay usageLogs parentId childId date).run w = (.ok usage, w') →
    Conserved (logsOf usageLogs childId (env.zone.startOfDay (date.getD w.now))
      (endOfDay (date.getD w.now))) usage := by
  intro h
  have hvalues := (h _ _ _ _ _ _ _ _ _ (run_answer "constructor")).values "constructor"
    (.text "function Object() { [native code] }60") (by decide +kernel)
  cases hvalues

end GuardTime.Usage.Totals
