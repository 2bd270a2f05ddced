import OneTimePassword.Base32
import OneTimePassword.BigEndian
import OneTimePassword.Clock
import OneTimePassword.CommandLine.Description
import OneTimePassword.CommandLine.Help
import OneTimePassword.CommandLine.Parse
import OneTimePassword.CommandLine.Request
import OneTimePassword.CommandLine.Run
import OneTimePassword.CommandLine.Switch
import OneTimePassword.CommandLine.UsageError
import OneTimePassword.CommandLine.Word
import OneTimePassword.Enrollment.Presentation
import OneTimePassword.Enrollment.Run
import OneTimePassword.EnrollmentUri
import OneTimePassword.Errno
import OneTimePassword.Failure
import OneTimePassword.FileSystem.Basic
import OneTimePassword.FileSystem.Calls
import OneTimePassword.Hmac
import OneTimePassword.Host
import OneTimePassword.Hotp
import OneTimePassword.Journal
import OneTimePassword.Main
import OneTimePassword.Mode
import OneTimePassword.Percent
import OneTimePassword.Proofs.Base32.Bits
import OneTimePassword.Proofs.Base32.Characters
import OneTimePassword.Proofs.Base32.Decoding
import OneTimePassword.Proofs.Base32.Key
import OneTimePassword.Proofs.Base32.Reading
import OneTimePassword.Proofs.Base32.RoundTrip
import OneTimePassword.Proofs.Base32.Symbols
import OneTimePassword.Proofs.CommandLine.Order
import OneTimePassword.Proofs.CommandLine.Rendering
import OneTimePassword.Proofs.CommandLine.Spelling
import OneTimePassword.Proofs.CommandLine.Telling
import OneTimePassword.Proofs.Enrollment.Confirmation
import OneTimePassword.Proofs.Enrollment.Console
import OneTimePassword.Proofs.Enrollment.Credential
import OneTimePassword.Proofs.Enrollment.Decision
import OneTimePassword.Proofs.Enrollment.Failures
import OneTimePassword.Proofs.Enrollment.Files
import OneTimePassword.Proofs.Enrollment.Independence
import OneTimePassword.Proofs.Enrollment.LateMode
import OneTimePassword.Proofs.Enrollment.Presentation
import OneTimePassword.Proofs.Enrollment.Questions
import OneTimePassword.Proofs.Enrollment.Run
import OneTimePassword.Proofs.Enrollment.Secrecy
import OneTimePassword.Proofs.EnrollmentUri.Generic
import OneTimePassword.Proofs.EnrollmentUri.Reader
import OneTimePassword.Proofs.EnrollmentUri.Size
import OneTimePassword.Proofs.FileSystem.Place
import OneTimePassword.Proofs.FileSystem.Shape
import OneTimePassword.Proofs.Hotp
import OneTimePassword.Proofs.Percent
import OneTimePassword.Proofs.QrCode.Drawing
import OneTimePassword.Proofs.QrCode.Picture
import OneTimePassword.Proofs.RandomBytes
import OneTimePassword.Proofs.Replacement.Cause
import OneTimePassword.Proofs.Replacement.Cleanup
import OneTimePassword.Proofs.Replacement.Conflict
import OneTimePassword.Proofs.Replacement.Content
import OneTimePassword.Proofs.Replacement.Course
import OneTimePassword.Proofs.Replacement.Outcome
import OneTimePassword.Proofs.Replacement.Race
import OneTimePassword.Proofs.Replacement.TempFile
import OneTimePassword.Proofs.Respondent
import OneTimePassword.Proofs.Respondent.Console
import OneTimePassword.Proofs.ScratchCode.Draw
import OneTimePassword.Proofs.ScratchCode.Frequency
import OneTimePassword.Proofs.ScratchCode.Outcomes
import OneTimePassword.Proofs.SecretFile.Compositional
import OneTimePassword.Proofs.SecretFile.Content
import OneTimePassword.Proofs.SecretFile.History
import OneTimePassword.Proofs.SecretFile.LateMode
import OneTimePassword.Proofs.SecretFile.Layout
import OneTimePassword.Proofs.SecretFile.Lines
import OneTimePassword.Proofs.SecretFile.ModeLine
import OneTimePassword.Proofs.SecretFile.Policy
import OneTimePassword.Proofs.SecretFile.Reader
import OneTimePassword.Proofs.SecretFile.Room
import OneTimePassword.Proofs.SecretFile.Steps
import OneTimePassword.Proofs.SecretFile.Twin
import OneTimePassword.Proofs.Session.Agree
import OneTimePassword.Proofs.Session.Compositional
import OneTimePassword.Proofs.Session.Ensures
import OneTimePassword.Proofs.Session.Frame
import OneTimePassword.Proofs.Session.Respects
import OneTimePassword.Proofs.Session.Retold
import OneTimePassword.Proofs.Session.Steps
import OneTimePassword.Proofs.Settings.Consistency
import OneTimePassword.Proofs.Settings.Validation
import OneTimePassword.Proofs.Terminal
import OneTimePassword.Proofs.Text.Decimal
import OneTimePassword.Proofs.Text.Integer
import OneTimePassword.Proofs.Text.Plain
import OneTimePassword.Proofs.Timestamp
import OneTimePassword.QrCode.Drawing
import OneTimePassword.QrCode.Mode
import OneTimePassword.QrCode.Renderer
import OneTimePassword.RandomBytes
import OneTimePassword.Replacement.Attempt
import OneTimePassword.Replacement.Basic
import OneTimePassword.Respondent
import OneTimePassword.ScratchCode.Basic
import OneTimePassword.ScratchCode.Draw
import OneTimePassword.SecretFile.Basic
import OneTimePassword.SecretFile.Directive
import OneTimePassword.SecretFile.Policy
import OneTimePassword.Session
import OneTimePassword.Settings.Basic
import OneTimePassword.Settings.Conflict
import OneTimePassword.Settings.Validation
import OneTimePassword.Sha1
import OneTimePassword.Text.Blank
import OneTimePassword.Text.Capital
import OneTimePassword.Text.Digit
import OneTimePassword.Text.Integer
import OneTimePassword.Text.Printable
import OneTimePassword.Text.Quoted
import OneTimePassword.Text.Utf8
import OneTimePassword.Timestamp
