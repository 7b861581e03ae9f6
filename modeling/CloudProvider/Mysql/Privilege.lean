/-!
# Privileges on a database
-/

namespace CloudProvider.Mysql

/-- The privileges that an account can be given on a database. -/
def databasePrivileges : List String :=
  ["SELECT", "INSERT", "UPDATE", "DELETE", "CREATE", "DROP", "REFERENCES", "INDEX", "ALTER",
   "CREATE TEMPORARY TABLES", "LOCK TABLES", "EXECUTE", "CREATE VIEW", "SHOW VIEW",
   "CREATE ROUTINE", "ALTER ROUTINE", "EVENT", "TRIGGER"]

end CloudProvider.Mysql
