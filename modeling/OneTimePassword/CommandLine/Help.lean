/-
Module: OneTimePassword.CommandLine.Help
Purpose: What the command line tells about itself.
Main exports: CommandLine.usage, CommandLine.help, CommandLine.version, CommandLine.refusal
-/
import OneTimePassword.CommandLine.UsageError

namespace OneTimePassword.CommandLine

/-- The name of the program. -/
def programName : String := "otp-setup"

/-- The form of a command line. -/
def usage : String :=
  "usage: otp-setup [-h] [--version] [-v] [-c] [-C] [-t] [-d] [-D] [-f]\n" ++
  "                 [-l LABEL] [-i ISSUER] [-q] [-Q MODE] [-r N] [-R M] [-u]\n" ++
  "                 [-s FILE] [-S S] [-w W] [-W] [-e N]\n"

/-- What each switch is for. -/
def help : String :=
  usage ++
  "\n" ++
  "Create a TOTP/HOTP secret and write it to ~/.google_authenticator.\n" ++
  "\n" ++
  "options:\n" ++
  "  -h, --help            show this help message and exit\n" ++
  "  --version             show program's version number and exit\n" ++
  "  -v, --verbose         Verbose output\n" ++
  "  -c, --counter-based   Set up counter-based (HOTP) verification\n" ++
  "  -C, --no-confirm      Don't confirm code. For non-interactive setups\n" ++
  "  -t, --time-based      Set up time-based (TOTP) verification\n" ++
  "  -d, --disallow-reuse  Disallow reuse of previously used TOTP tokens\n" ++
  "  -D, --allow-reuse     Allow reuse of previously used TOTP tokens\n" ++
  "  -f, --force           Write file without first confirming with user\n" ++
  "  -l LABEL, --label LABEL\n" ++
  "                        Override the default label in \"otpauth://\" URL\n" ++
  "  -i ISSUER, --issuer ISSUER\n" ++
  "                        Override the default issuer in \"otpauth://\" URL\n" ++
  "  -q, --quiet           Quiet mode\n" ++
  "  -Q MODE, --qr-mode MODE\n" ++
  "                        QRCode output mode: NONE, ANSI, ANSI_INVERSE,\n" ++
  "                        ANSI_GREY, UTF8, UTF8_INVERSE, UTF8_GREY\n" ++
  "  -r N, --rate-limit N  Limit logins to N per every M seconds\n" ++
  "  -R M, --rate-time M   Limit logins to N per every M seconds\n" ++
  "  -u, --no-rate-limit   Disable rate-limiting\n" ++
  "  -s FILE, --secret FILE\n" ++
  "                        Specify a non-standard file location\n" ++
  "  -S S, --step-size S   Set interval between token refreshes\n" ++
  "  -w W, --window-size W\n" ++
  "                        Set window of concurrently valid codes\n" ++
  "  -W, --minimal-window  Disable window of concurrently valid codes\n" ++
  "  -e N, --emergency-codes N\n" ++
  "                        Number of emergency codes to generate (0..10)\n"

/-- The program's name and version. -/
def version : String := programName ++ " 1.0.0\n"

/-- What is said about a command line that is not understood. -/
def refusal (error : UsageError) : String :=
  usage ++ programName ++ ": error: " ++ error.message ++ "\n"

end OneTimePassword.CommandLine
