-- The packaged catalog: the rules that are used when no other catalog is given, in their
-- order. A rule without languages holds for every one of them, the unknown one too.

import SourceAudit.Catalog.Basic
import SourceAudit.Catalog.PackagedFixes

namespace SourceAudit.Packaged

/-- A rule as the packaged catalog lists it. -/
structure Entry where
  id : String
  type : String
  severity : Severity
  languages : List Language := []
  pattern : String
  ignoreCase : Bool := false
  cwe : String
  description : String
  references : List String
  fix : Option FixTemplate := none

/-- The rules of the packaged catalog. -/
def entries : List Entry := [
  {
    id := "js-sql-template-literal"
    type := "SQL Injection"
    severity := .critical
    languages := [.javascript, .typescript]
    pattern := "`[^`]*\\b(?:SELECT|INSERT|UPDATE|DELETE|DROP)\\b[^`]*\\$\\\x7b"
    ignoreCase := true
    cwe := "CWE-89"
    description := "SQL statement built with a template literal that interpolates variables."
    references := [
      "https://cwe.mitre.org/data/definitions/89.html",
      "https://cheatsheetseries.owasp.org/cheatsheets/Query_Parameterization_Cheat_Sheet.html"] },
  {
    id := "js-sql-concatenation"
    type := "SQL Injection"
    severity := .critical
    languages := [.javascript, .typescript]
    pattern := "[\"'](?:SELECT|INSERT|UPDATE|DELETE)\\b[^\"']*[\"']\\s*\\+"
    ignoreCase := true
    cwe := "CWE-89"
    description := "SQL statement built by concatenating strings with variables."
    references := ["https://cwe.mitre.org/data/definitions/89.html"] },
  {
    id := "py-sql-fstring"
    type := "SQL Injection"
    severity := .critical
    languages := [.python]
    pattern := "\\.(?:execute|executemany|raw)\\s*\\(\\s*f[\"'](?:SELECT|INSERT|UPDATE|DELETE|DROP)\\b"
    ignoreCase := true
    cwe := "CWE-89"
    description := "SQL statement passed to the database as an f-string."
    references := ["https://cwe.mitre.org/data/definitions/89.html"]
    fix := some {
        rationale := "Values formatted into the SQL text can change the query structure. Use a " ++
          "parameterized query and let the driver bind the values."
        before := "cursor.execute(f\"SELECT * FROM users WHERE id = \x7buser_id\x7d\")"
        after := "cursor.execute(\"SELECT * FROM users WHERE id = %s\", (user_id,))" } },
  {
    id := "py-sql-format"
    type := "SQL Injection"
    severity := .critical
    languages := [.python]
    pattern := "\\.execute\\s*\\(\\s*[\"'](?:SELECT|INSERT|UPDATE|DELETE)\\b[^\"']*[\"']\\s*(?:%|\\+|\\.format\\s*\\()"
    ignoreCase := true
    cwe := "CWE-89"
    description := "SQL statement built with string formatting before execution."
    references := ["https://cwe.mitre.org/data/definitions/89.html"]
    fix := some {
        rationale := "Values formatted into the SQL text can change the query structure. Use a " ++
          "parameterized query and let the driver bind the values."
        before := "cursor.execute(\"SELECT * FROM users WHERE name = '%s'\" % name)"
        after := "cursor.execute(\"SELECT * FROM users WHERE name = %s\", (name,))" } },
  {
    id := "java-sql-concatenation"
    type := "SQL Injection"
    severity := .critical
    languages := [.java]
    pattern := "\\.(?:executeQuery|executeUpdate|execute|addBatch|createQuery|createNativeQuery)\\s*\\(\\s*\"[^\"]*\\b(?:SELECT|INSERT|UPDATE|DELETE)\\b[^\"]*\"\\s*\\+"
    ignoreCase := true
    cwe := "CWE-89"
    description := "JDBC/JPA query string concatenated with variables."
    references := ["https://cwe.mitre.org/data/definitions/89.html"]
    fix := some {
        rationale := "Concatenated query strings let input change the SQL. Use a " ++
          "PreparedStatement with placeholders and bind each value."
        before := "stmt.executeQuery(\"SELECT * FROM users WHERE id = \" + id);"
        after := "PreparedStatement ps = conn.prepareStatement(\"SELECT * FROM users WHERE id = ?\");\n" ++
          "ps.setString(1, id);" } },
  {
    id := "csharp-sql-command"
    type := "SQL Injection"
    severity := .critical
    languages := [.csharp]
    pattern := "new\\s+(?:SqlCommand|OleDbCommand|MySqlCommand|NpgsqlCommand)\\s*\\(\\s*(?:\"[^\"]*\"\\s*\\+|\\$\"[^\"]*\\\x7b)"
    cwe := "CWE-89"
    description := "ADO.NET command text built from concatenated or interpolated strings."
    references := ["https://cwe.mitre.org/data/definitions/89.html"] },
  {
    id := "php-sql-request-input"
    type := "SQL Injection"
    severity := .critical
    languages := [.php]
    pattern := "(?:mysqli_query|mysql_query|pg_query|->query|->exec)\\s*\\([^;]*\\$_(?:GET|POST|REQUEST|COOKIE)\\b"
    cwe := "CWE-89"
    description := "Database query built directly from request superglobals."
    references := ["https://cwe.mitre.org/data/definitions/89.html"] },
  {
    id := "go-sql-sprintf"
    type := "SQL Injection"
    severity := .critical
    languages := [.go]
    pattern := "\\.(?:Query|QueryRow|QueryContext|Exec|ExecContext)\\s*\\(\\s*(?:ctx\\s*,\\s*)?fmt\\.Sprintf\\s*\\("
    cwe := "CWE-89"
    description := "database/sql query text produced with fmt.Sprintf."
    references := ["https://cwe.mitre.org/data/definitions/89.html"] },
  {
    id := "ruby-sql-interpolation"
    type := "SQL Injection"
    severity := .critical
    languages := [.ruby]
    pattern := "\\.(?:where|find_by_sql|execute|exec_query|order|select)\\s*\\(\\s*\"[^\"]*#\\\x7b"
    cwe := "CWE-89"
    description := "ActiveRecord/SQL fragment built with string interpolation."
    references := ["https://cwe.mitre.org/data/definitions/89.html"] },
  {
    id := "c-sql-format-string"
    type := "SQL Injection"
    severity := .high
    languages := [.c, .cpp, .unknown]
    pattern := "\"\\s*(?:SELECT|INSERT|UPDATE|DELETE)\\b[^\"]*(?:%s|'\\s*\"\\s*\\+|\"\\s*\\+)"
    ignoreCase := true
    cwe := "CWE-89"
    description := "SQL text assembled with a format directive or string concatenation."
    references := ["https://cwe.mitre.org/data/definitions/89.html"] },
  {
    id := "js-inner-html-assignment"
    type := "Cross-site Scripting (XSS)"
    severity := .high
    languages := [.javascript, .typescript]
    pattern := "\\.(?:innerHTML|outerHTML)\\s*\\+?=(?!=)"
    cwe := "CWE-79"
    description := "Assignment to innerHTML/outerHTML renders unescaped markup."
    references := ["https://cwe.mitre.org/data/definitions/79.html"] },
  {
    id := "js-document-write"
    type := "Cross-site Scripting (XSS)"
    severity := .high
    languages := [.javascript, .typescript]
    pattern := "\\bdocument\\.write(?:ln)?\\s*\\("
    cwe := "CWE-79"
    description := "document.write() inserts raw markup into the page."
    references := ["https://cwe.mitre.org/data/definitions/79.html"] },
  {
    id := "react-dangerously-set-inner-html"
    type := "Cross-site Scripting (XSS)"
    severity := .high
    languages := [.javascript, .typescript]
    pattern := "\\bdangerouslySetInnerHTML\\s*="
    cwe := "CWE-79"
    description := "dangerouslySetInnerHTML bypasses React's output escaping."
    references := ["https://cwe.mitre.org/data/definitions/79.html"] },
  {
    id := "express-send-interpolated-html"
    type := "Cross-site Scripting (XSS)"
    severity := .high
    languages := [.javascript, .typescript]
    pattern := "\\bres\\.(?:send|write|end)\\s*\\(\\s*`[^`]*<[^`]*\\$\\\x7b"
    cwe := "CWE-79"
    description := "HTML response assembled from interpolated values without escaping."
    references := ["https://cwe.mitre.org/data/definitions/79.html"] },
  {
    id := "py-mark-safe-dynamic"
    type := "Cross-site Scripting (XSS)"
    severity := .high
    languages := [.python]
    pattern := "\\b(?:mark_safe|Markup|render_template_string)\\s*\\(\\s*(?:f[\"']|request\\.|[A-Za-z_][\\w.]*\\s*(?:\\+|%))"
    cwe := "CWE-79"
    description := "Dynamic content marked as safe HTML or rendered as a template string."
    references := ["https://cwe.mitre.org/data/definitions/79.html"] },
  {
    id := "php-echo-request-input"
    type := "Cross-site Scripting (XSS)"
    severity := .high
    languages := [.php]
    pattern := "\\b(?:echo|print)\\b[^;]*\\$_(?:GET|POST|REQUEST|COOKIE)\\b"
    cwe := "CWE-79"
    description := "Request input echoed into the response without htmlspecialchars()."
    references := ["https://cwe.mitre.org/data/definitions/79.html"] },
  {
    id := "aws-access-key-id"
    type := "Hardcoded Secret"
    severity := .critical
    pattern := "\\b(?:A3T[A-Z0-9]|AKIA|ASIA)[0-9A-Z]\x7b16\x7d\\b"
    cwe := "CWE-798"
    description := "AWS access key id embedded in source."
    references := ["https://cwe.mitre.org/data/definitions/798.html"] },
  {
    id := "private-key-block"
    type := "Hardcoded Secret"
    severity := .critical
    pattern := "-----BEGIN (?:RSA |EC |DSA |OPENSSH |PGP |ENCRYPTED )?PRIVATE KEY-----"
    cwe := "CWE-321"
    description := "Private key material embedded in source."
    references := ["https://cwe.mitre.org/data/definitions/321.html"] },
  {
    id := "live-api-token"
    type := "Hardcoded Secret"
    severity := .critical
    pattern := "\\b(?:sk|rk)_live_[0-9A-Za-z]\x7b10,\x7d|\\bgh[pousr]_[0-9A-Za-z]\x7b36\x7d\\b|\\bxox[baprs]-[0-9A-Za-z-]\x7b10,\x7d"
    cwe := "CWE-798"
    description := "Live payment, GitHub or Slack token embedded in source."
    references := ["https://cwe.mitre.org/data/definitions/798.html"] },
  {
    id := "hardcoded-credential-assignment"
    type := "Hardcoded Secret"
    severity := .high
    pattern := "(?<![\\w-])[\\w-]\x7b0,40\x7d?(?:api[_-]?key|secret|passw(?:or)?d|access[_-]?token|auth[_-]?token|client[_-]?secret)[\"']?\\s*(?::=|=|:|=>)\\s*[\"'](?![^\"']*(?:example|dummy|placeholder|changeme|xxxx|<))[^\"'\\s]\x7b8,\x7d[\"']"
    ignoreCase := true
    cwe := "CWE-798"
    description := "Credential-like name assigned a string literal."
    references := ["https://cwe.mitre.org/data/definitions/798.html"] },
  {
    id := "express-cookie-without-secure"
    type := "Insecure Cookie"
    severity := .medium
    languages := [.javascript, .typescript]
    pattern := "\\bres\\.cookie\\s*\\((?![^;]*\\bsecure\\s*:\\s*true)"
    cwe := "CWE-614"
    description := "Cookie set without the Secure attribute."
    references := [
      "https://cwe.mitre.org/data/definitions/614.html",
      "https://cheatsheetseries.owasp.org/cheatsheets/Session_Management_Cheat_Sheet.html"] },
  {
    id := "py-set-cookie-without-secure"
    type := "Insecure Cookie"
    severity := .medium
    languages := [.python]
    pattern := "\\.set_cookie\\s*\\((?![^;]*\\bsecure\\s*=\\s*True)"
    cwe := "CWE-614"
    description := "set_cookie() called without secure=True."
    references := ["https://cwe.mitre.org/data/definitions/614.html"]
    fix := some {
        rationale := "Cookies without Secure, HttpOnly and SameSite travel over plain HTTP and " ++
          "are readable by scripts. Pass all three flags."
        before := "response.set_cookie(\"session\", token)"
        after := "response.set_cookie(\"session\", token, secure=True, httponly=True, " ++
          "samesite=\"Strict\")" } },
  {
    id := "java-cookie-flags-disabled"
    type := "Insecure Cookie"
    severity := .medium
    languages := [.java]
    pattern := "\\.set(?:Secure|HttpOnly)\\s*\\(\\s*false\\s*\\)"
    cwe := "CWE-614"
    description := "Cookie Secure/HttpOnly flag explicitly disabled."
    references := ["https://cwe.mitre.org/data/definitions/614.html"] },
  {
    id := "php-setcookie-defaults"
    type := "Insecure Cookie"
    severity := .medium
    languages := [.php]
    pattern := "\\bsetcookie\\s*\\(\\s*[^,()]+,\\s*[^,()]+\\)"
    cwe := "CWE-614"
    description := "setcookie() called without secure or httponly options."
    references := ["https://cwe.mitre.org/data/definitions/614.html"] },
  {
    id := "js-fs-dynamic-path"
    type := "Path Traversal"
    severity := .high
    languages := [.javascript, .typescript]
    pattern := "\\bfs\\.(?:readFile|readFileSync|createReadStream|writeFile|writeFileSync|unlink|unlinkSync|readdir)\\s*\\([^)]*(?:\\+|\\$\\\x7b|req\\.(?:params|query|body))"
    cwe := "CWE-22"
    description := "Filesystem call with a path built from variables or request data."
    references := ["https://cwe.mitre.org/data/definitions/22.html"] },
  {
    id := "py-open-request-path"
    type := "Path Traversal"
    severity := .high
    languages := [.python]
    pattern := "\\b(?:open|send_file|os\\.path\\.join)\\s*\\([^)]*\\brequest\\.(?:args|form|files|values|GET|POST|json)"
    cwe := "CWE-22"
    description := "File path taken from request parameters."
    references := ["https://cwe.mitre.org/data/definitions/22.html"] },
  {
    id := "java-file-request-parameter"
    type := "Path Traversal"
    severity := .high
    languages := [.java]
    pattern := "\\bnew\\s+File(?:InputStream|Reader|OutputStream)?\\s*\\([^)]*\\bgetParameter\\s*\\("
    cwe := "CWE-22"
    description := "File opened with a name taken from a request parameter."
    references := ["https://cwe.mitre.org/data/definitions/22.html"] },
  {
    id := "php-include-request-input"
    type := "Path Traversal"
    severity := .critical
    languages := [.php]
    pattern := "\\b(?:include|require)(?:_once)?\\b[^;]*\\$_(?:GET|POST|REQUEST|COOKIE)\\b"
    cwe := "CWE-98"
    description := "include/require with a path taken from request input."
    references := ["https://cwe.mitre.org/data/definitions/98.html"] },
  {
    id := "go-open-request-path"
    type := "Path Traversal"
    severity := .high
    languages := [.go]
    pattern := "\\b(?:os\\.Open|os\\.ReadFile|ioutil\\.ReadFile|http\\.ServeFile)\\s*\\([^)]*\\br\\.(?:URL\\.Query\\(\\)|FormValue\\s*\\()"
    cwe := "CWE-22"
    description := "File path taken from the HTTP request."
    references := ["https://cwe.mitre.org/data/definitions/22.html"] },
  {
    id := "npm-install-pinned-version"
    type := "Outdated Dependency"
    severity := .low
    pattern := "\\bnpm\\s+(?:install|i)\\s+(?:-\\S+\\s+)*(?:@[\\w.-]+/)?[\\w.-]+@\\d+\\.\\d+\\.\\d+"
    cwe := "CWE-1104"
    description := "Package installed at a hard-pinned version that will not receive fixes."
    references := ["https://cwe.mitre.org/data/definitions/1104.html"] },
  {
    id := "py-pickle-load"
    type := "Unsafe Deserialization"
    severity := .high
    languages := [.python]
    pattern := "\\b(?:pickle|cPickle|dill|jsonpickle)\\.(?:loads?|decode)\\s*\\("
    cwe := "CWE-502"
    description := "pickle-style deserialization can execute arbitrary code."
    references := ["https://cwe.mitre.org/data/definitions/502.html"] },
  {
    id := "py-yaml-unsafe-load"
    type := "Unsafe Deserialization"
    severity := .high
    languages := [.python]
    pattern := "\\byaml\\.(?:load|unsafe_load|full_load)\\s*\\((?![^)]*Loader\\s*=\\s*(?:yaml\\.)?C?SafeLoader)"
    cwe := "CWE-502"
    description := "yaml.load() without SafeLoader can construct arbitrary objects."
    references := ["https://cwe.mitre.org/data/definitions/502.html"]
    fix := some {
        rationale := "The default YAML loaders can build arbitrary Python objects. Use " ++
          "yaml.safe_load so only plain data types are created."
        before := "config = yaml.load(stream)"
        after := "config = yaml.safe_load(stream)" } },
  {
    id := "java-object-input-stream"
    type := "Unsafe Deserialization"
    severity := .high
    languages := [.java]
    pattern := "\\bnew\\s+ObjectInputStream\\s*\\("
    cwe := "CWE-502"
    description := "Java native deserialization of a stream."
    references := ["https://cwe.mitre.org/data/definitions/502.html"] },
  {
    id := "php-unserialize-request-input"
    type := "Unsafe Deserialization"
    severity := .critical
    languages := [.php]
    pattern := "\\bunserialize\\s*\\([^;]*\\$_(?:GET|POST|REQUEST|COOKIE)\\b"
    cwe := "CWE-502"
    description := "unserialize() called on request input."
    references := ["https://cwe.mitre.org/data/definitions/502.html"] },
  {
    id := "ruby-marshal-load"
    type := "Unsafe Deserialization"
    severity := .high
    languages := [.ruby]
    pattern := "\\b(?:Marshal\\.load|Marshal\\.restore|YAML\\.unsafe_load)\\s*\\("
    cwe := "CWE-502"
    description := "Marshal/unsafe YAML loading of untrusted data."
    references := ["https://cwe.mitre.org/data/definitions/502.html"] },
  {
    id := "csharp-binary-formatter"
    type := "Unsafe Deserialization"
    severity := .high
    languages := [.csharp]
    pattern := "\\b(?:BinaryFormatter|NetDataContractSerializer|LosFormatter)\\s*\\("
    cwe := "CWE-502"
    description := "Insecure .NET formatter used for deserialization."
    references := ["https://cwe.mitre.org/data/definitions/502.html"] },
  {
    id := "js-node-serialize"
    type := "Unsafe Deserialization"
    severity := .high
    languages := [.javascript, .typescript]
    pattern := "\\b(?:serialize|serialijse)\\.unserialize\\s*\\("
    cwe := "CWE-502"
    description := "node-serialize style unserialize() evaluates embedded functions."
    references := ["https://cwe.mitre.org/data/definitions/502.html"] },
  {
    id := "js-exec-dynamic-command"
    type := "Command Injection"
    severity := .critical
    languages := [.javascript, .typescript]
    pattern := "(?<![\\w.])(?:child_process\\.)?exec(?:Sync)?\\s*\\(\\s*(?:`[^`]*\\$\\\x7b|[\"'][^\"']*[\"']\\s*\\+|[A-Za-z_$][\\w$.]*\\s*\\+)"
    cwe := "CWE-78"
    description := "Shell command built from variables and passed to exec()."
    references := ["https://cwe.mitre.org/data/definitions/78.html"] },
  {
    id := "py-os-system-dynamic"
    type := "Command Injection"
    severity := .critical
    languages := [.python]
    pattern := "\\bos\\.(?:system|popen)\\s*\\(\\s*(?:f[\"']|[\"'][^\"']*[\"']\\s*(?:\\+|%)|[A-Za-z_][\\w.]*\\s*\\+|[A-Za-z_][\\w.]*\\.format\\s*\\()"
    cwe := "CWE-78"
    description := "os.system()/os.popen() with a command built from variables."
    references := ["https://cwe.mitre.org/data/definitions/78.html"]
    fix := some {
        rationale := "A shell parses the whole string, so input can append commands. Call the " ++
          "program with an argument list through subprocess without a shell."
        before := "os.system(\"convert \" + filename)"
        after := "subprocess.run([\"convert\", filename], check=True)" } },
  {
    id := "py-subprocess-shell-true"
    type := "Command Injection"
    severity := .high
    languages := [.python]
    pattern := "\\bsubprocess\\.(?:call|run|Popen|check_call|check_output)\\s*\\([^)]*\\bshell\\s*=\\s*True"
    cwe := "CWE-78"
    description := "subprocess invoked with shell=True."
    references := ["https://cwe.mitre.org/data/definitions/78.html"] },
  {
    id := "java-runtime-exec-concat"
    type := "Command Injection"
    severity := .critical
    languages := [.java]
    pattern := "\\bRuntime\\.getRuntime\\(\\)\\.exec\\s*\\([^)]*\\+"
    cwe := "CWE-78"
    description := "Runtime.exec() with a command string built from variables."
    references := ["https://cwe.mitre.org/data/definitions/78.html"] },
  {
    id := "php-shell-request-input"
    type := "Command Injection"
    severity := .critical
    languages := [.php]
    pattern := "\\b(?:system|exec|shell_exec|passthru|popen|proc_open)\\s*\\([^;]*\\$_(?:GET|POST|REQUEST|COOKIE)\\b"
    cwe := "CWE-78"
    description := "Shell function called with request input."
    references := ["https://cwe.mitre.org/data/definitions/78.html"] },
  {
    id := "go-exec-shell"
    type := "Command Injection"
    severity := .high
    languages := [.go]
    pattern := "\\bexec\\.Command(?:Context)?\\s*\\([^)]*\"(?:sh|bash|/bin/sh|/bin/bash|cmd(?:\\.exe)?)\"\\s*,\\s*\"(?:-c|/c|/C)\""
    cwe := "CWE-78"
    description := "exec.Command runs its arguments through a shell."
    references := ["https://cwe.mitre.org/data/definitions/78.html"] },
  {
    id := "c-system-variable"
    type := "Command Injection"
    severity := .high
    languages := [.c, .cpp]
    pattern := "\\b(?:system|popen)\\s*\\(\\s*[A-Za-z_]\\w*(?:\\.c_str\\(\\))?\\s*[,)]"
    cwe := "CWE-78"
    description := "system()/popen() called with a command held in a variable."
    references := ["https://cwe.mitre.org/data/definitions/78.html"] },
  {
    id := "ruby-shell-interpolation"
    type := "Command Injection"
    severity := .critical
    languages := [.ruby]
    pattern := "(?:\\b(?:system|exec|spawn)\\s*\\(?\\s*\"[^\"]*#\\\x7b|`[^`]*#\\\x7b|%x\\\x7b[^\x7d]*#\\\x7b)"
    cwe := "CWE-78"
    description := "Shell command interpolates Ruby expressions."
    references := ["https://cwe.mitre.org/data/definitions/78.html"] },
  {
    id := "csharp-process-start-concat"
    type := "Command Injection"
    severity := .high
    languages := [.csharp]
    pattern := "\\bProcess\\.Start\\s*\\([^)]*\\+"
    cwe := "CWE-78"
    description := "Process.Start() with arguments built from variables."
    references := ["https://cwe.mitre.org/data/definitions/78.html"] },
  {
    id := "dynamic-eval"
    type := "Code Injection"
    severity := .high
    languages := [.javascript, .typescript, .php, .ruby]
    pattern := "(?<![\\w.$])eval\\s*\\(|\\bnew\\s+Function\\s*\\("
    cwe := "CWE-95"
    description := "eval()/new Function() executes strings as code."
    references := ["https://cwe.mitre.org/data/definitions/95.html"] },
  {
    id := "py-eval-exec"
    type := "Code Injection"
    severity := .high
    languages := [.python]
    pattern := "(?<![\\w.])(?:eval|exec)\\s*\\("
    cwe := "CWE-95"
    description := "eval()/exec() executes strings as Python code."
    references := ["https://cwe.mitre.org/data/definitions/95.html"]
    fix := some {
        rationale := "eval and exec run arbitrary Python. Parse literals with ast.literal_eval " ++
          "or map allowed names to functions explicitly."
        before := "value = eval(user_input)"
        after := "value = ast.literal_eval(user_input)" } },
  {
    id := "express-request-id-lookup"
    type := "Insecure Direct Object Reference"
    severity := .medium
    languages := [.javascript, .typescript]
    pattern := "\\b(?:findById|findByPk|getUserById|findOne|getById)\\s*\\(\\s*req\\.(?:params|query|body)\\.\\w+\\s*\\)"
    cwe := "CWE-639"
    description := "Record loaded by a request-supplied id without an ownership check."
    references := ["https://cwe.mitre.org/data/definitions/639.html"] },
  {
    id := "py-request-id-lookup"
    type := "Insecure Direct Object Reference"
    severity := .medium
    languages := [.python]
    pattern := "\\.(?:get|filter|get_object_or_404)\\s*\\([^)]*\\b(?:id|pk)\\s*=\\s*request\\.(?:args|form|GET|POST|values)"
    cwe := "CWE-639"
    description := "Record loaded by a request-supplied id without an ownership check."
    references := ["https://cwe.mitre.org/data/definitions/639.html"] },
  {
    id := "js-log-sensitive-data"
    type := "Sensitive Data Exposure"
    severity := .low
    languages := [.javascript, .typescript]
    pattern := "\\bconsole\\.(?:log|info|debug|warn|error)\\s*\\([^)]*\\b(?:password|passwd|secret|token|api_?key|user_?data|credit_?card|ssn)"
    ignoreCase := true
    cwe := "CWE-532"
    description := "Sensitive value written to the console log."
    references := ["https://cwe.mitre.org/data/definitions/532.html"] },
  {
    id := "py-log-sensitive-data"
    type := "Sensitive Data Exposure"
    severity := .low
    languages := [.python]
    pattern := "\\b(?:print|logger\\.\\w+|logging\\.\\w+|log\\.\\w+)\\s*\\([^)]*\\b(?:password|passwd|secret|token|api_?key|credit_?card|ssn)"
    ignoreCase := true
    cwe := "CWE-532"
    description := "Sensitive value written to output or logs."
    references := ["https://cwe.mitre.org/data/definitions/532.html"] },
  {
    id := "java-log-sensitive-data"
    type := "Sensitive Data Exposure"
    severity := .low
    languages := [.java, .csharp]
    pattern := "\\b(?:System\\.out\\.println|Console\\.WriteLine|log(?:ger)?\\.(?:info|debug|warn|error|trace))\\s*\\([^)]*\\b(?:password|secret|token|apiKey)"
    ignoreCase := true
    cwe := "CWE-532"
    description := "Sensitive value written to output or logs."
    references := ["https://cwe.mitre.org/data/definitions/532.html"] },
  {
    id := "py-weak-hash"
    type := "Weak Cryptography"
    severity := .medium
    languages := [.python]
    pattern := "\\bhashlib\\.(?:md5|sha1)\\s*\\(|\\bhashlib\\.new\\s*\\(\\s*[\"'](?:md5|sha1)[\"']"
    cwe := "CWE-328"
    description := "MD5/SHA-1 used for hashing."
    references := ["https://cwe.mitre.org/data/definitions/328.html"] },
  {
    id := "js-weak-hash"
    type := "Weak Cryptography"
    severity := .medium
    languages := [.javascript, .typescript]
    pattern := "\\bcreateHash\\s*\\(\\s*[\"'](?:md5|sha1)[\"']"
    ignoreCase := true
    cwe := "CWE-328"
    description := "MD5/SHA-1 used for hashing."
    references := ["https://cwe.mitre.org/data/definitions/328.html"]
    fix := some {
        rationale := "MD5 and SHA-1 are broken for security purposes. Use SHA-256 or better for " ++
          "integrity and bcrypt/scrypt/Argon2 for passwords."
        before := "crypto.createHash(\"md5\").update(data).digest(\"hex\");"
        after := "crypto.createHash(\"sha256\").update(data).digest(\"hex\");" } },
  {
    id := "java-weak-crypto"
    type := "Weak Cryptography"
    severity := .medium
    languages := [.java]
    pattern := "\\bMessageDigest\\.getInstance\\s*\\(\\s*\"(?:MD5|SHA-?1)\"|\\bCipher\\.getInstance\\s*\\(\\s*\"(?:DES|DESede|RC4|[^\"]*/ECB/)"
    ignoreCase := true
    cwe := "CWE-327"
    description := "Broken hash or cipher algorithm requested."
    references := ["https://cwe.mitre.org/data/definitions/327.html"] },
  {
    id := "go-weak-hash"
    type := "Weak Cryptography"
    severity := .medium
    languages := [.go]
    pattern := "\\b(?:md5|sha1)\\.(?:New|Sum)\\s*\\("
    cwe := "CWE-328"
    description := "MD5/SHA-1 used for hashing."
    references := ["https://cwe.mitre.org/data/definitions/328.html"] },
  {
    id := "php-weak-password-hash"
    type := "Weak Cryptography"
    severity := .medium
    languages := [.php]
    pattern := "\\b(?:md5|sha1)\\s*\\(\\s*\\$\\w*(?:pass|pwd)"
    ignoreCase := true
    cwe := "CWE-916"
    description := "Password hashed with a fast, broken hash instead of password_hash()."
    references := ["https://cwe.mitre.org/data/definitions/916.html"] },
  {
    id := "csharp-weak-hash"
    type := "Weak Cryptography"
    severity := .medium
    languages := [.csharp]
    pattern := "\\b(?:MD5|SHA1)(?:CryptoServiceProvider)?\\.Create\\s*\\(|\\bnew\\s+(?:MD5|SHA1)CryptoServiceProvider\\s*\\("
    cwe := "CWE-328"
    description := "MD5/SHA-1 used for hashing."
    references := ["https://cwe.mitre.org/data/definitions/328.html"] },
  {
    id := "plain-http-url"
    type := "Insecure Transport"
    severity := .low
    pattern := "[\"']http://(?!localhost\\b|127\\.0\\.0\\.1\\b|0\\.0\\.0\\.0\\b|\\[::1\\]|www\\.w3\\.org/|schemas\\.)[^\"'\\s]+[\"']"
    cwe := "CWE-319"
    description := "Endpoint URL uses plain HTTP."
    references := ["https://cwe.mitre.org/data/definitions/319.html"] },
  {
    id := "py-tls-verify-disabled"
    type := "Insecure Transport"
    severity := .medium
    languages := [.python]
    pattern := "\\bverify\\s*=\\s*False\\b"
    cwe := "CWE-295"
    description := "TLS certificate verification disabled."
    references := ["https://cwe.mitre.org/data/definitions/295.html"] },
  {
    id := "js-tls-verify-disabled"
    type := "Insecure Transport"
    severity := .medium
    languages := [.javascript, .typescript]
    pattern := "\\brejectUnauthorized\\s*:\\s*false\\b|NODE_TLS_REJECT_UNAUTHORIZED\\s*=\\s*[\"']?0"
    cwe := "CWE-295"
    description := "TLS certificate verification disabled."
    references := ["https://cwe.mitre.org/data/definitions/295.html"] },
  {
    id := "go-tls-insecure-skip-verify"
    type := "Insecure Transport"
    severity := .medium
    languages := [.go]
    pattern := "\\bInsecureSkipVerify\\s*:\\s*true\\b"
    cwe := "CWE-295"
    description := "TLS certificate verification disabled."
    references := ["https://cwe.mitre.org/data/definitions/295.html"] },
  {
    id := "c-unbounded-string-copy"
    type := "Buffer Overflow"
    severity := .high
    languages := [.c, .cpp]
    pattern := "\\b(?:gets|strcpy|strcat|sprintf|vsprintf)\\s*\\("
    cwe := "CWE-120"
    description := "Unbounded string function can overflow the destination buffer."
    references := ["https://cwe.mitre.org/data/definitions/120.html"] }]

/-- The pattern that a source text stands for. One that cannot be read would match nothing. -/
def patternOf (source : WideText) (ignoreCase : Bool) : Pattern :=
  match Pattern.compile source ignoreCase with
  | .ok pattern => pattern
  | .error _ => ⟨source, ignoreCase, .never, 0, none⟩

/-- The remediation for a type of issue. -/
def fixFor (type : WideText) : FixTemplate :=
  (fixes.lookup type).getD ⟨"", "", ""⟩

/-- The rule that an entry describes. -/
def Entry.rule (entry : Entry) : Rule where
  id := entry.id
  type := entry.type
  severity := entry.severity
  languages := Language.sorted entry.languages
  pattern := patternOf entry.pattern entry.ignoreCase
  description := entry.description
  fix := entry.fix.getD (fixFor entry.type)
  cwe := some entry.cwe
  references := entry.references.map WideText.ofString

end SourceAudit.Packaged

namespace SourceAudit

/-- The catalog that is used when no other is given. -/
def Catalog.packaged : Catalog where
  rules := Packaged.entries.map Packaged.Entry.rule
  fixes := Packaged.fixes

end SourceAudit
