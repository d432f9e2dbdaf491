import EdgeGateway.Library.Dict
import EdgeGateway.Library.PercentEncoding

open PercentEncoding

namespace gateway.spark_manager

/-- The DSN without the SQLAlchemy driver prefix. -/
def remainder (dsn : List Char) : List Char :=
  match split_once [':', '/', '/'] dsn with
  | some (_, remainder) => remainder
  | none => dsn

/-- Extract JDBC connection properties from the DSN. -/
def postgres_properties (dsn : String) : Dict String String :=
  let props := Dict.empty.set "driver" "org.postgresql.Driver"
  match split_once ['@'] (remainder dsn.toList) with
  | some (userinfo, _) =>
    match split_once [':'] userinfo with
    | some (user, password) => (props.set "user" (String.ofList user)).set "password" (String.ofList password)
    | none => props.set "user" (String.ofList userinfo)
  | none => props

/-- JDBC URL without credentials (host:port/db only). -/
def postgres_jdbc_url_clean (dsn : String) : String :=
  let remainder := remainder dsn.toList
  let hostinfo :=
    match split_once ['@'] remainder with
    | some (_, hostinfo) => hostinfo
    | none => remainder
  "jdbc:postgresql://" ++ String.ofList hostinfo

/-- A percent-encoding for the userinfo of a URL, by the characters that it leaves as they are. -/
structure Encoding where
  safe : Char → Bool
  reserved : ∀ c ∈ ['%', ':', '@', '/'], safe c = false

/-- The one of SQLAlchemy. -/
def sqlalchemy : Encoding where
  safe c := c.isAlphanum || c ∈ ['_', '.', '-', '~', ' ', '+']
  reserved := by
    rw [List.forall_mem_cons, List.forall_mem_cons, List.forall_mem_cons, List.forall_mem_singleton]
    decide

/-- The parts of a DSN. -/
structure Parts where
  user : String
  password : String
  host : String
  port : ℕ
  database : String

def Parts.hostinfo (parts : Parts) : List Char :=
  parts.host.toList ++ ':' :: ((toString parts.port).toList ++ '/' :: parts.database.toList)

def Parts.userinfo (encoding : Encoding) (parts : Parts) : List Char :=
  quote encoding.safe parts.user.toList ++ ':' :: quote encoding.safe parts.password.toList

def drivername : List Char := "postgresql+asyncpg".toList

/-- The DSN in URL form, with the user and the password encoded. -/
def Parts.render (encoding : Encoding) (parts : Parts) : String :=
  String.ofList (drivername ++ ':' :: (['/', '/'] ++ (parts.userinfo encoding ++ '@' :: parts.hostinfo)))

/-- The settings have the very user and password, and the URL has the rest. -/
structure Recovered (parts : Parts) (dsn : String) : Prop where
  user : (postgres_properties dsn).get? "user" = some parts.user
  password : (postgres_properties dsn).get? "password" = some parts.password
  url : postgres_jdbc_url_clean dsn = "jdbc:postgresql://" ++ String.ofList parts.hostinfo

section Split

variable (encoding : Encoding) (parts : Parts)

theorem not_mem_quote_of_reserved {c : Char} (hmem : c ∈ [':', '@', '/']) (text : List Char) :
    c ∉ quote encoding.safe text := by
  have hpercent : ∀ c ∈ [':', '@', '/'], c ≠ '%' := by
    rw [List.forall_mem_cons, List.forall_mem_cons, List.forall_mem_singleton]
    decide
  have halphanum : ∀ c ∈ [':', '@', '/'], c.isAlphanum = false := by
    rw [List.forall_mem_cons, List.forall_mem_cons, List.forall_mem_singleton]
    decide
  exact not_mem_quote (encoding.reserved c (List.mem_cons_of_mem _ hmem)) (hpercent c hmem) (halphanum c hmem)

theorem remainder_render :
    remainder (parts.render encoding).toList = parts.userinfo encoding ++ '@' :: parts.hostinfo := by
  have hdriver : ':' ∉ drivername := by decide +kernel
  rw [remainder, Parts.render, String.toList_ofList, split_once_append hdriver]

theorem split_userinfo :
    split_once ['@'] (remainder (parts.render encoding).toList) = some (parts.userinfo encoding, parts.hostinfo) := by
  rw [remainder_render]
  refine split_once_append ?_ parts.hostinfo
  intro hmem
  obtain hmem | hmem := List.mem_append.mp hmem
  · exact not_mem_quote_of_reserved encoding (by decide) _ hmem
  · obtain heq | hmem := List.mem_cons.mp hmem
    · cases heq
    · exact not_mem_quote_of_reserved encoding (by decide) _ hmem

/-- What the settings have are the encoded texts. -/
theorem postgres_properties_render :
    postgres_properties (parts.render encoding) =
      ((Dict.empty.set "driver" "org.postgresql.Driver").set "user"
        (String.ofList (quote encoding.safe parts.user.toList))).set "password"
          (String.ofList (quote encoding.safe parts.password.toList)) := by
  have hsplit : split_once [':'] (parts.userinfo encoding) =
      some (quote encoding.safe parts.user.toList, quote encoding.safe parts.password.toList) :=
    split_once_append (not_mem_quote_of_reserved encoding (by decide) _) _
  rw [postgres_properties, split_userinfo]
  dsimp only
  rw [hsplit]

/-- The URL never has any of the credentials. -/
theorem postgres_jdbc_url_clean_render :
    postgres_jdbc_url_clean (parts.render encoding) = "jdbc:postgresql://" ++ String.ofList parts.hostinfo := by
  unfold postgres_jdbc_url_clean
  simp only [split_userinfo]

theorem ofList_quote_eq_iff (text : String) :
    String.ofList (quote encoding.safe text.toList) = text ↔ ∀ c ∈ text.toList, encoding.safe c = true := by
  rw [← quote_eq_self_iff]
  constructor
  · intro h
    have hlist := congrArg String.toList h
    rw [String.toList_ofList] at hlist
    exact hlist
  · intro h
    rw [h, String.ofList_toList]

end Split

/-- The parts of a rendered DSN are recovered exactly if neither the user nor the password has a
character that the encoding changes; the URL is in any case. -/
theorem recovered_iff (encoding : Encoding) (parts : Parts) :
    (Recovered parts (parts.render encoding) ↔
      (∀ c ∈ parts.user.toList, encoding.safe c = true) ∧ ∀ c ∈ parts.password.toList, encoding.safe c = true) ∧
    postgres_jdbc_url_clean (parts.render encoding) = "jdbc:postgresql://" ++ String.ofList parts.hostinfo := by
  have hurl := postgres_jdbc_url_clean_render encoding parts
  have hne : "user" ≠ "password" := by decide
  refine ⟨?_, hurl⟩
  rw [← ofList_quote_eq_iff, ← ofList_quote_eq_iff]
  constructor
  · rintro ⟨huser, hpassword, _⟩
    rw [postgres_properties_render, Dict.get?_set_of_ne _ _ hne, Dict.get?_set_self] at huser
    rw [postgres_properties_render, Dict.get?_set_self] at hpassword
    exact ⟨Option.some.inj huser, Option.some.inj hpassword⟩
  · rintro ⟨huser, hpassword⟩
    refine ⟨?_, ?_, hurl⟩
    · rw [postgres_properties_render, Dict.get?_set_of_ne _ _ hne, Dict.get?_set_self, huser]
    · rw [postgres_properties_render, Dict.get?_set_self, hpassword]

/-- A password with an at sign. -/
def sample_parts : Parts :=
  { user := "iot_gateway", password := "p@ss", host := "postgres", port := 5432, database := "iot_gateway" }

/-- It is logged in with as "p%40ss". -/
theorem encoded_password_not_recovered :
    (postgres_properties (sample_parts.render sqlalchemy)).get? "password" = some "p%40ss" ∧
      ¬ ∀ encoding parts, Recovered parts (parts.render encoding) := by
  have hpassword : (postgres_properties (sample_parts.render sqlalchemy)).get? "password" = some "p%40ss" := by
    decide +kernel
  refine ⟨hpassword, fun hclaim => ?_⟩
  have h := (hclaim sqlalchemy sample_parts).password
  rw [hpassword] at h
  exact absurd h (by decide)

end gateway.spark_manager
