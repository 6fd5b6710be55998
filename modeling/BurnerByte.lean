import BurnerByte.Smtp.Terminator
import BurnerByte.Smtp.Buffering
import BurnerByte.Smtp.Envelope
import BurnerByte.Account.Revocation
import BurnerByte.Account.Issuance
import BurnerByte.Mailbox.Coherence
import BurnerByte.Mailbox.Retention
import BurnerByte.Mailbox.Spelling
import BurnerByte.Mailbox.Quota
import BurnerByte.Account.Enforcement
import BurnerByte.Sso.Verification
import BurnerByte.Sso.AdminUpdate
import BurnerByte.Sso.Domains
import BurnerByte.Org.Races
import BurnerByte.Teams.BulkRemoval
import BurnerByte.Teams.Containment
import BurnerByte.ApiKeys.BulkRevoke
import BurnerByte.ApiKeys.Scopes
import BurnerByte.ApiKeys.Secrets
import BurnerByte.Auth.Delegation
import BurnerByte.OneTime.AtMostOnce
import BurnerByte.Tenancy.Verification
import BurnerByte.Teams.InviteAuth
import BurnerByte.Teams.Reinvite
import BurnerByte.Teams.RevocationRace
import BurnerByte.Teams.Views
import BurnerByte.Webhooks.Confinement
import BurnerByte.Webhooks.Dispatcher
import BurnerByte.Net.ClientIP
import BurnerByte.Web.SafeRedirect
import BurnerByte.Setup.Once
import BurnerByte.Settings.PasswordPolicy
import BurnerByte.Account.LockoutRace
import BurnerByte.Settings.LockoutPolicy
import BurnerByte.Rbac.Assignable
import BurnerByte.Worker.Announcements
import BurnerByte.Account.RefreshFailure
import BurnerByte.Mailbox.Ownership
import BurnerByte.Mailbox.Reconciler
