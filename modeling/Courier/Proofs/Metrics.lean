import Courier.Client
import Courier.Proofs.Table
import Courier.Proofs.Text
/-!
Counts of a client.  Counting one series leaves the others alone, so it only has to be known which
series are different: those of different names, and among the counts of one target's requests those
that differ in transport or outcome.  Label values are not escaped, so nothing of the kind holds from
one target to another.
-/
namespace Courier.Metrics

theorem value_count_self (name : String) (labels : Labels) (m : Metrics) :
    value name labels (count name labels m) = value name labels m + 1 := by
  unfold count
  rw [value, Table.get?_insert_self]
  rfl

theorem value_count_of_ne {name other : String} {labels others : Labels}
    (h : series other others ≠ series name labels) (m : Metrics) :
    value other others (count name labels m) = value other others m := by
  unfold count
  rw [value, Table.get?_insert_of_ne h]
  rfl

/-- A name is what stands before the first brace. -/
theorem series_name {name other : String} {labels others : Labels}
    (plain : '\x7b' ∉ name.toList) (plain' : '\x7b' ∉ other.toList)
    (h : series name labels = series other others) : name = other := by
  have opening : ∀ {n : String} {l : Labels}, '\x7b' ∉ n.toList →
      (series n l).toList.takeWhile (· != '\x7b') = n.toList := by
    intro n l no_brace
    have all : ∀ c ∈ n.toList, (c != '\x7b') = true := by
      intro c member
      simp only [bne_iff_ne, ne_eq]
      rintro rfl
      exact no_brace member
    simp only [series, String.toList_append, List.append_assoc]
    rw [List.takeWhile_append_of_pos all]
    simp
  have same : name.toList = other.toList := by
    rw [← opening (l := labels) plain, ← opening (l := others) plain', h]
  exact String.toList_inj.mp same

theorem value_count_of_name {name other : String} {labels others : Labels}
    (plain : '\x7b' ∉ name.toList) (plain' : '\x7b' ∉ other.toList) (h : other ≠ name) (m : Metrics) :
    value other others (count name labels m) = value other others m :=
  value_count_of_ne (fun same => h (series_name plain' plain same)) m

end Courier.Metrics

namespace Courier.Client

/-- The labels under which a request is counted. -/
def requestLabels (service : String) (t : Transport) (outcome : String) : Metrics.Labels :=
  [("target", service), ("transport", t.label), ("outcome", outcome)]

theorem requests_series (service outcome : String) (t : Transport) :
    Metrics.series requestsSeries (requestLabels service t outcome) =
      "dispatch_requests_total\x7boutcome=" ++ outcome ++ (",target=" ++ service ++ ",transport=")
        ++ (t.label ++ "\x7d") := by
  have first : "transport" ≠ "target" ∧ ¬ "transport" < "target" := by decide
  have second : "outcome" ≠ "target" ∧ "outcome" < "target" := by decide
  have listed : Metrics.series requestsSeries (requestLabels service t outcome) =
      "dispatch_requests_total" ++ "\x7b" ++ (("outcome" ++ "=" ++ outcome) ++ "," ++
        (("target" ++ "=" ++ service) ++ "," ++ ("transport" ++ "=" ++ t.label))) ++ "\x7d" := by
    simp only [Metrics.series, requestLabels, requestsSeries, Table.ofList, Table.insert,
      List.foldl_cons, List.foldl_nil, first.1, first.2, second.1, second.2, if_true, if_false,
      List.map_cons, List.map_nil, String.intercalate_cons_cons, String.intercalate_singleton]
  have opening : "dispatch_requests_total\x7boutcome=" =
      "dispatch_requests_total" ++ "\x7b" ++ ("outcome" ++ "=") := rfl
  have middle : ",target=" = "," ++ ("target" ++ "=") := rfl
  have last : ",transport=" = "," ++ ("transport" ++ "=") := rfl
  rw [listed, opening, middle, last]
  simp only [String.append_assoc]

/-- The label of a transport closes a series, so the transport can be told from the end. -/
theorem transport_closes {front front' : String} {t t' : Transport}
    (h : front ++ (t.label ++ "\x7d") = front' ++ (t'.label ++ "\x7d")) : t = t' ∧ front = front' := by
  have chars : front.toList ++ (t.label ++ "\x7d").toList = front'.toList ++ (t'.label ++ "\x7d").toList := by
    rw [← String.toList_append, ← String.toList_append, h]
  have widths : ∀ t : Transport, (t.label ++ "\x7d").toList.length = 5 := by
    intro t
    cases t <;> decide
  obtain ⟨fronts, labels⟩ := List.append_inj' chars ((widths t).trans (widths t').symm)
  have labels : t.label ++ "\x7d" = t'.label ++ "\x7d" := String.toList_inj.mp labels
  have same : t = t' := by
    cases t <;> cases t' <;> first | rfl | exact absurd labels (by decide)
  exact ⟨same, String.toList_inj.mp fronts⟩

/-- The counts of a target's requests, told apart by transport and outcome. -/
theorem requests_series_inj {service outcome outcome' : String} {t t' : Transport}
    (h : Metrics.series requestsSeries (requestLabels service t outcome) =
      Metrics.series requestsSeries (requestLabels service t' outcome')) :
    t = t' ∧ outcome = outcome' := by
  rw [requests_series, requests_series] at h
  obtain ⟨same, fronts⟩ := transport_closes h
  rw [String.append_left_inj, String.append_right_inj] at fronts
  exact ⟨same, fronts⟩

/-- The labels under which the time of a request is recorded. -/
def durationLabels (service : String) (t : Transport) : Metrics.Labels :=
  [("target", service), ("transport", t.label)]

theorem durations_series (service : String) (t : Transport) :
    Metrics.series durationSeries (durationLabels service t) =
      "dispatch_duration_seconds\x7btarget=" ++ service ++ ",transport=" ++ (t.label ++ "\x7d") := by
  have order : "transport" ≠ "target" ∧ ¬ "transport" < "target" := by decide
  have listed : Metrics.series durationSeries (durationLabels service t) =
      "dispatch_duration_seconds" ++ "\x7b" ++ (("target" ++ "=" ++ service) ++ "," ++
        ("transport" ++ "=" ++ t.label)) ++ "\x7d" := by
    simp only [Metrics.series, durationLabels, durationSeries, Table.ofList, Table.insert, List.foldl_cons,
      List.foldl_nil, order.1, order.2, if_false, List.map_cons, List.map_nil, String.intercalate_cons_cons,
      String.intercalate_singleton]
  have opening : "dispatch_duration_seconds\x7btarget=" =
      "dispatch_duration_seconds" ++ "\x7b" ++ ("target" ++ "=") := rfl
  have last : ",transport=" = "," ++ ("transport" ++ "=") := rfl
  rw [listed, opening, last]
  simp only [String.append_assoc]

theorem durations_series_inj {service : String} {t t' : Transport}
    (h : Metrics.series durationSeries (durationLabels service t) =
      Metrics.series durationSeries (durationLabels service t')) : t = t' := by
  rw [durations_series, durations_series] at h
  exact (transport_closes h).1

/-- One request of this target more, under this transport and outcome, with its time; nothing else. -/
structure CountedOnce (service : String) (t : Transport) (outcome : String) (m m' : Metrics) : Prop where
  requests : ∀ t' outcome', Metrics.value requestsSeries (requestLabels service t' outcome') m' =
    Metrics.value requestsSeries (requestLabels service t' outcome') m +
      if t' = t ∧ outcome' = outcome then 1 else 0
  durations : ∀ t', Metrics.value durationSeries (durationLabels service t') m' =
    Metrics.value durationSeries (durationLabels service t') m + if t' = t then 1 else 0
  others : ∀ name labels, '\x7b' ∉ name.toList → name ≠ requestsSeries → name ≠ durationSeries →
    Metrics.value name labels m' = Metrics.value name labels m

theorem countOutcome_once (service : String) (t : Transport) (o : Outcome) (m : Metrics) :
    CountedOnce service t (outcomeLabel o) m (countOutcome service t o m) where
  requests t' outcome' := by
    unfold countOutcome
    rw [Metrics.value_count_of_name (by decide) (by decide) (by decide)]
    split
    · next same =>
      obtain ⟨rfl, rfl⟩ := same
      exact Metrics.value_count_self _ _ m
    · next other =>
      exact Metrics.value_count_of_ne (fun same => other (requests_series_inj same)) m
  durations t' := by
    have request : Metrics.value durationSeries (durationLabels service t')
        (Metrics.count requestsSeries (requestLabels service t (outcomeLabel o)) m) =
          Metrics.value durationSeries (durationLabels service t') m :=
      Metrics.value_count_of_name (by decide) (by decide) (by decide) m
    rw [← request]
    split
    · next same =>
      subst same
      exact Metrics.value_count_self _ _ _
    · next other =>
      exact Metrics.value_count_of_ne (fun same => other (durations_series_inj same)) _
  others name labels plain request duration := by
    unfold countOutcome
    rw [Metrics.value_count_of_name (by decide) plain duration,
      Metrics.value_count_of_name (by decide) plain request]

end Courier.Client
