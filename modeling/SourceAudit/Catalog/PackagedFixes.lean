-- The remediation texts of the packaged catalog, by the type of issue they are for.

import SourceAudit.Rule

namespace SourceAudit.Packaged

/-- Remediation by type of issue. -/
def fixes : List (WideText × FixTemplate) := [
  ("SQL Injection",
    {
      rationale := "Untrusted values are spliced into the SQL text, so an attacker can change " ++
        "the structure of the query. Use a parameterized query (prepared statement) and pass " ++
        "values separately so the driver treats them as data, never as SQL."
      before := "const query = `SELECT * FROM users WHERE id = $\x7buserId\x7d`;\n" ++
        "db.query(query);"
      after := "const query = \"SELECT * FROM users WHERE id = ?\";\n" ++
        "db.query(query, [userId]);"
    }),
  ("Cross-site Scripting (XSS)",
    {
      rationale := "User-controlled data is written into HTML without encoding, letting an " ++
        "attacker inject script that runs in other users' browsers. Render text through an " ++
        "escaping template or set textContent, and sanitize any HTML you must accept with a " ++
        "vetted library such as DOMPurify."
      before := "element.innerHTML = userInput;\n" ++
        "res.send(`<div>$\x7buserInput\x7d</div>`);"
      after := "element.textContent = userInput;\n" ++
        "res.send(`<div>$\x7bescapeHtml(userInput)\x7d</div>`);"
    }),
  ("Hardcoded Secret",
    {
      rationale := "Credentials committed to source code are exposed to everyone with access to " ++
        "the repository and its history, and cannot be rotated without a release. Load secrets " ++
        "at runtime from the environment or a secrets manager and revoke the exposed value."
      before := "const API_KEY = \"sk_live_abcdef123456\";"
      after := "const API_KEY = process.env.API_KEY;"
    }),
  ("Insecure Cookie",
    {
      rationale := "Session cookies without the Secure, HttpOnly and SameSite attributes can be " ++
        "sent over plain HTTP, read by injected scripts, or attached to cross-site requests. Set " ++
        "all three flags explicitly."
      before := "res.cookie(\"session\", token, \x7b httpOnly: true \x7d);"
      after := "res.cookie(\"session\", token, \x7b httpOnly: true, secure: true, sameSite: " ++
        "\"strict\" \x7d);"
    }),
  ("Path Traversal",
    {
      rationale := "A file path built from request data can contain \"../\" segments that escape " ++
        "the intended directory. Resolve the path against a fixed base directory and reject " ++
        "anything that ends up outside it."
      before := "fs.readFile(path + \"../../../\" + filename);"
      after := "const target = path.resolve(BASE_DIR, filename);\n" ++
        "if (!target.startsWith(BASE_DIR + path.sep)) throw new Error(\"invalid path\");\n" ++
        "fs.readFile(target);"
    }),
  ("Outdated Dependency",
    {
      rationale := "Installing a hard-pinned old release keeps known, already-fixed " ++
        "vulnerabilities in the build. Pin through a lockfile, keep dependencies current and run " ++
        "a dependency audit in CI."
      before := "npm install some-package@1.0.0"
      after := "npm install some-package@latest && npm audit"
    }),
  ("Unsafe Deserialization",
    {
      rationale := "Native deserializers can instantiate arbitrary types and run code while " ++
        "reading attacker-controlled bytes. Exchange plain data formats such as JSON validated " ++
        "against a schema, or use the safe loader of the library."
      before := "data = pickle.loads(request.body)"
      after := "data = json.loads(request.body)\n" ++
        "validate(data, schema)"
    }),
  ("Command Injection",
    {
      rationale := "Building a shell command from untrusted input lets an attacker append their " ++
        "own commands. Call the program directly with an argument list and no shell, and " ++
        "validate the arguments against an allow-list."
      before := "exec(\"rm -rf \" + userInput);"
      after := "execFile(\"rm\", [\"-rf\", \"--\", sanitizedPath]);"
    }),
  ("Code Injection",
    {
      rationale := "Evaluating strings as code runs whatever the string contains. Replace " ++
        "eval-style calls with explicit parsing (JSON.parse, ast.literal_eval) or a dispatch " ++
        "table of allowed operations."
      before := "const result = eval(expression);"
      after := "const result = JSON.parse(expression);"
    }),
  ("Insecure Direct Object Reference",
    {
      rationale := "Records are fetched by an identifier taken straight from the request without " ++
        "checking that the caller may access them. Scope the lookup to the authenticated user or " ++
        "enforce an authorization check before returning the object."
      before := "const userData = db.getUserById(req.params.id);"
      after := "if (req.params.id !== req.user.id && !req.user.isAdmin) return res.sendStatus(403);\n" ++
        "const userData = db.getUserById(req.user.id);"
    }),
  ("Sensitive Data Exposure",
    {
      rationale := "Logging secrets or personal data copies them into log stores that are widely " ++
        "readable and rarely purged. Log identifiers instead of payloads and mask sensitive " ++
        "fields before they reach a logger."
      before := "console.log(\"User data:\", userData);"
      after := "logger.info(\"Loaded user\", \x7b userId: userData.id \x7d);"
    }),
  ("Weak Cryptography",
    {
      rationale := "MD5, SHA-1, DES and ECB mode are broken for security purposes. Use SHA-256 " ++
        "or better for integrity, a slow password hash (bcrypt, scrypt, Argon2) for passwords, " ++
        "and an authenticated cipher such as AES-GCM."
      before := "hashlib.md5(password.encode()).hexdigest()"
      after := "bcrypt.hashpw(password.encode(), bcrypt.gensalt())"
    }),
  ("Insecure Transport",
    {
      rationale := "Plain HTTP endpoints and disabled certificate verification expose traffic to " ++
        "interception and tampering. Use HTTPS and keep TLS certificate verification enabled."
      before := "requests.get(\"http://api.example.com/data\", verify=False)"
      after := "requests.get(\"https://api.example.com/data\")"
    }),
  ("Buffer Overflow",
    {
      rationale := "Unbounded string functions write past the end of the destination buffer when " ++
        "the input is longer than expected. Use the bounded variants and always pass the " ++
        "destination size."
      before := "strcpy(dest, input);"
      after := "snprintf(dest, sizeof(dest), \"%s\", input);"
    })]

end SourceAudit.Packaged
