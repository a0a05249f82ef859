import MGMDB.MySQL.Client
import MGMDB.MyResult.Rows

/-!
# Queries to MySQL

`query:` of `MGMMyConnection` from its text on: send it, and make a result of
what the server answers.
-/

namespace MGMDB

/-- `+[MGMMyResult resultWithConnection:]`. -/
def MGMMyResult.resultWithConnection (mysql : MYSQL) :
    Except NSException (Option MGMMyResult) × MYSQL :=
  let (result, mysql) := mysql.mysql_store_result
  (MGMMyResult.initWithResult result, mysql)

namespace MGMMyConnection

/-- `query:`, from its text on.  The text is not sent when it is empty. -/
def query (mysql : MYSQL) (query : NSString) (w : Written) (reply : Reply) :
    Except NSException (Option MGMMyResult) × MYSQL :=
  if query = [] then (.ok none, mysql)
  else
    match mysql.mysql_query w reply with
    | (true, mysql) => (.ok none, mysql)
    | (false, mysql) => MGMMyResult.resultWithConnection mysql

section
variable {mysql : MYSQL} {text : NSString}

/-- A text that is not empty is sent, and the result of it stored. -/
theorem query_eq (mysql : MYSQL) (ht : text ≠ []) (w : Written) (reply : Reply) :
    query mysql text w reply =
      (MGMMyResult.initWithResult (mysql.query_and_store w reply).1,
        (mysql.query_and_store w reply).2) := by
  rw [query, if_neg ht, MYSQL.query_and_store]
  cases mysql.mysql_query w reply with
  | mk refused mysql => cases refused <;> rfl

/-- On a ready session the text is sent, and the rest is the reply's. -/
theorem query_of_ready (h : mysql.Ready) (ht : text ≠ []) (reply : Reply) :
    query mysql text .written reply =
      match { mysql.net_clear_error with affected_rows := ~~~0 }.cli_read_query_result reply with
      | (true, mysql) => (.ok none, mysql)
      | (false, mysql) => MGMMyResult.resultWithConnection mysql := by
  obtain ⟨hvio, hstatus, hmore⟩ := h
  simp [query, ht, MYSQL.mysql_query, MYSQL.cli_advanced_command, hvio, hstatus, hmore]

end

end MGMMyConnection

end MGMDB
