/-!
# Bundled bodies

The template bodies that come with the library, line by line. Braces are written as `\x7b` and
`\x7d`.
-/
namespace Promptsmith.Bodies

/-- A body from its lines, each with its line feed. -/
def ofLines (lines : List String) : String :=
  String.join (lines.map (· ++ "\n"))

/-- The detected features, joined by commas. -/
def featureLoop : String :=
  "\x7b\x7b#each detected_features\x7d\x7d\x7b\x7bthis\x7d\x7d" ++
    "\x7b\x7b#unless @last\x7d\x7d, \x7b\x7b/unless\x7d\x7d\x7b\x7b/each\x7d\x7d"

/-! ### Guidance shared by all archetypes -/

def baseCore : String := ofLines [
  "## Working Agreement",
  "",
  "- Start from a running skeleton and keep it running after every change.",
  "- Build one feature end to end (data model, API, UI, tests) before starting the next.",
  "- Keep secrets in environment variables and commit an `.env.example` listing every key.",
  "- Prefer boring, well-documented libraries over clever ones."]

def baseBestPractices : String := ofLines [
  "## Engineering Practices",
  "",
  "- Type every module boundary; enable TypeScript strict mode.",
  "- Validate all input at the API edge with a schema library such as Zod.",
  "- Return consistent error shapes from every endpoint.",
  "- Write a test for each bug before fixing it.",
  "- Add database indexes for every column used in a lookup or sort."]

def baseTechStackGuide : String := ofLines [
  "## Reference Stack",
  "",
  "| Layer | Default choice |",
  "|-------|----------------|",
  "| Framework | Next.js (App Router) |",
  "| Language | TypeScript |",
  "| Styling | Tailwind CSS |",
  "| Database | PostgreSQL via Prisma |",
  "| Auth | NextAuth.js |",
  "| Hosting | Vercel |"]

/-! ### Online stores -/

def ecommerceMainPrompt : String := ofLines [
  "# E-commerce Development Expert",
  "",
  "You are guiding the development of **\x7b\x7bproject_name\x7d\x7d**, an online store.",
  "",
  "## Project Overview",
  "",
  "**Project type**: \x7b\x7bproject_type\x7d\x7d",
  "**Complexity**: \x7b\x7bcomplexity_level\x7d\x7d",
  "**Detected features**: " ++ featureLoop,
  "**Tech stack**: \x7b\x7btech_stack\x7d\x7d",
  "",
  "## Core Modules",
  "",
  "1. Product catalog with categories, variants and stock levels",
  "2. Shopping cart that survives page reloads and sign-in",
  "3. Checkout flow with address, shipping method and order summary",
  "4. Order history and status tracking for customers",
  "\x7b\x7b#if has_auth_feature\x7d\x7d",
  "5. Customer accounts with email verification and password reset",
  "\x7b\x7b/if\x7d\x7d",
  "\x7b\x7b#if has_admin_feature\x7d\x7d",
  "6. Admin back office for products, orders and refunds",
  "\x7b\x7b/if\x7d\x7d",
  "",
  "\x7b\x7b#if has_payment_feature\x7d\x7d",
  "## Payment Integration",
  "",
  "Your project includes **payments**. Use Stripe Checkout or Payment Intents:",
  "",
  "- Create payment intents on the server only; never trust client-side totals.",
  "- Confirm orders from the `payment_intent.succeeded` webhook, not the redirect.",
  "- Store the Stripe customer id on the user record for saved cards.",
  "\x7b\x7b/if\x7d\x7d",
  "\x7b\x7b#unless has_payment_feature\x7d\x7d",
  "## Payments",
  "",
  "No payment feature was detected. Keep checkout behind a feature flag and",
  "design the order model so a payment provider can be added later.",
  "\x7b\x7b/unless\x7d\x7d",
  "",
  "## Next Steps",
  "",
  "Confirm the modules above, then scaffold the data model first: products,",
  "carts, orders and order items.",
  "",
  "\x7b\x7bbase_content\x7d\x7d",
  "",
  "---",
  "*Generated by promptgen v\x7b\x7btool_version\x7d\x7d on \x7b\x7bcurrent_date\x7d\x7d.*"]

def ecommerceBeginnerGuide : String := ofLines [
  "# Build Your First Online Store: \x7b\x7bproject_name\x7d\x7d",
  "",
  "Welcome! This guide walks you through building **\x7b\x7bproject_name\x7d\x7d** step by step.",
  "",
  "**Features we will build**: " ++ featureLoop,
  "**Tools**: \x7b\x7btech_stack\x7d\x7d",
  "",
  "## Step 1: Set up the project",
  "",
  "Create the app, install dependencies and make sure the home page loads.",
  "",
  "## Step 2: Show products",
  "",
  "Add a `Product` model with a name, price and image, then list products on the home page.",
  "",
  "## Step 3: Add a cart",
  "",
  "Store cart items in the browser first; move them to the database once accounts exist.",
  "",
  "\x7b\x7b#if has_payment_feature\x7d\x7d",
  "## Step 4: Take payments",
  "",
  "Use Stripe Checkout. It hosts the payment page for you, so you never handle card numbers.",
  "\x7b\x7b/if\x7d\x7d",
  "",
  "Take it one step at a time and test each step in the browser before moving on.",
  "",
  "---",
  "*Generated by promptgen v\x7b\x7btool_version\x7d\x7d on \x7b\x7bcurrent_date\x7d\x7d.*"]

def ecommerceArchitectureFocused : String := ofLines [
  "# E-commerce Architecture Review: \x7b\x7bproject_name\x7d\x7d",
  "",
  "**Complexity**: \x7b\x7bcomplexity_level\x7d\x7d",
  "**Capabilities**: " ++ featureLoop,
  "**Stack**: \x7b\x7btech_stack\x7d\x7d",
  "",
  "## Bounded Contexts",
  "",
  "- **Catalog**: products, variants, pricing rules; read-heavy, cache aggressively.",
  "- **Ordering**: carts, orders, order state machine; strongly consistent.",
  "- **Fulfilment**: inventory reservations, shipments; event driven.",
  "\x7b\x7b#if has_payment_feature\x7d\x7d",
  "- **Payments**: provider integration behind an adapter; idempotent webhooks keyed by event id.",
  "\x7b\x7b/if\x7d\x7d",
  "",
  "## Scaling Concerns",
  "",
  "1. Reserve inventory at checkout start and release on timeout.",
  "2. Keep order totals immutable once placed; recompute only on explicit amendment.",
  "3. Publish domain events through an outbox table to avoid dual writes.",
  "",
  "---",
  "*Generated by promptgen v\x7b\x7btool_version\x7d\x7d on \x7b\x7bcurrent_date\x7d\x7d.*"]

def ecommerceBestPractices : String := ofLines [
  "# E-commerce Best Practices: \x7b\x7bproject_name\x7d\x7d",
  "",
  "**Features**: " ++ featureLoop,
  "**Stack**: \x7b\x7btech_stack\x7d\x7d",
  "",
  "## Security",
  "",
  "- Enforce CSRF protection on every state-changing form.",
  "- Rate-limit login, coupon redemption and checkout endpoints.",
  "\x7b\x7b#if has_payment_feature\x7d\x7d",
  "- Verify webhook signatures and reject replays older than five minutes.",
  "\x7b\x7b/if\x7d\x7d",
  "",
  "## Performance",
  "",
  "- Serve product pages statically and revalidate on stock or price change.",
  "- Optimise images with responsive sizes and lazy loading.",
  "- Keep the checkout bundle small; load analytics after interaction.",
  "",
  "\x7b\x7bbase_content\x7d\x7d",
  "",
  "---",
  "*Generated by promptgen v\x7b\x7btool_version\x7d\x7d on \x7b\x7bcurrent_date\x7d\x7d.*"]

/-! ### Subscription software -/

def saasMainPrompt : String := ofLines [
  "# SaaS Development Expert",
  "",
  "You are guiding the development of **\x7b\x7bproject_name\x7d\x7d**, a " ++
    "software-as-a-service platform.",
  "",
  "## Project Overview",
  "",
  "**Project type**: \x7b\x7bproject_type\x7d\x7d",
  "**Complexity**: \x7b\x7bcomplexity_level\x7d\x7d",
  "**Detected features**: " ++ featureLoop,
  "**Tech stack**: \x7b\x7btech_stack\x7d\x7d",
  "",
  "## Core Modules",
  "",
  "1. Organisations (tenants) with members and roles",
  "2. Onboarding flow that creates the first organisation",
  "3. Settings pages for profile, organisation and API keys",
  "4. Audit log of security-relevant actions",
  "",
  "\x7b\x7b#if has_billing_feature\x7d\x7d",
  "## Subscription Billing",
  "",
  "Model plans and subscriptions explicitly:",
  "",
  "- Sync plans from the billing provider; never hardcode prices in the UI.",
  "- Gate features by plan entitlements checked on the server.",
  "- Handle `invoice.payment_failed` with a grace period and dunning emails.",
  "\x7b\x7b/if\x7d\x7d",
  "",
  "## Multi-tenancy",
  "",
  "Scope every query by `organization_id` and enforce it in a single data-access layer.",
  "",
  "\x7b\x7bbase_content\x7d\x7d",
  "",
  "---",
  "*Generated by promptgen v\x7b\x7btool_version\x7d\x7d on \x7b\x7bcurrent_date\x7d\x7d.*"]

def saasMvpFocused : String := ofLines [
  "# SaaS MVP Plan: \x7b\x7bproject_name\x7d\x7d",
  "",
  "Ship the smallest product that solves one problem well.",
  "",
  "**Must-have features**: " ++ featureLoop,
  "**Stack**: \x7b\x7btech_stack\x7d\x7d",
  "",
  "## Week 1",
  "",
  "- Sign-up, sign-in and a single workspace per user.",
  "- The one core workflow your users pay for.",
  "",
  "## Week 2",
  "",
  "\x7b\x7b#if has_billing_feature\x7d\x7d",
  "- A single paid plan through a hosted checkout page.",
  "\x7b\x7b/if\x7d\x7d",
  "- Basic usage analytics and an email for feedback.",
  "",
  "Defer teams, roles and integrations until customers ask for them.",
  "",
  "---",
  "*Generated by promptgen v\x7b\x7btool_version\x7d\x7d on \x7b\x7bcurrent_date\x7d\x7d.*"]

def saasEnterpriseGrade : String := ofLines [
  "# Enterprise SaaS Architecture: \x7b\x7bproject_name\x7d\x7d",
  "",
  "**Complexity**: \x7b\x7bcomplexity_level\x7d\x7d",
  "**Capabilities**: " ++ featureLoop,
  "**Stack**: \x7b\x7btech_stack\x7d\x7d",
  "",
  "## Tenancy and Isolation",
  "",
  "- Row-level security keyed by tenant, enforced in the database.",
  "- Per-tenant encryption keys for sensitive columns.",
  "",
  "## Identity",
  "",
  "- SAML/OIDC single sign-on and SCIM user provisioning.",
  "- Fine-grained RBAC with custom roles.",
  "",
  "\x7b\x7b#if has_billing_feature\x7d\x7d",
  "## Billing",
  "",
  "- Usage metering pipeline with idempotent event ingestion.",
  "- Contracted plans with invoicing and purchase orders.",
  "\x7b\x7b/if\x7d\x7d",
  "",
  "## Operations",
  "",
  "- Audit logs exportable per tenant.",
  "- Documented RPO/RTO with tested restores.",
  "",
  "---",
  "*Generated by promptgen v\x7b\x7btool_version\x7d\x7d on \x7b\x7bcurrent_date\x7d\x7d.*"]

/-! ### Publishing sites -/

def blogMainPrompt : String := ofLines [
  "# Blog Development Expert",
  "",
  "You are guiding the development of **\x7b\x7bproject_name\x7d\x7d**, a content publishing site.",
  "",
  "## Project Overview",
  "",
  "**Project type**: \x7b\x7bproject_type\x7d\x7d",
  "**Complexity**: \x7b\x7bcomplexity_level\x7d\x7d",
  "**Detected features**: " ++ featureLoop,
  "**Tech stack**: \x7b\x7btech_stack\x7d\x7d",
  "",
  "## Core Modules",
  "",
  "1. Posts written in Markdown/MDX with front matter",
  "2. Tags and categories with archive pages",
  "3. RSS feed and sitemap",
  "4. SEO metadata and Open Graph images per post",
  "",
  "\x7b\x7b#if has_search_feature\x7d\x7d",
  "## Search",
  "",
  "Index post titles, excerpts and tags at build time and query the index on",
  "the client; move to a hosted search service past a few thousand posts.",
  "\x7b\x7b/if\x7d\x7d",
  "",
  "\x7b\x7bbase_content\x7d\x7d",
  "",
  "---",
  "*Generated by promptgen v\x7b\x7btool_version\x7d\x7d on \x7b\x7bcurrent_date\x7d\x7d.*"]

def blogSimpleBlog : String := ofLines [
  "# A Simple Blog: \x7b\x7bproject_name\x7d\x7d",
  "",
  "Keep it simple: Markdown files in the repository, statically generated pages.",
  "",
  "**Features**: " ++ featureLoop,
  "**Stack**: \x7b\x7btech_stack\x7d\x7d",
  "",
  "1. Put posts in `content/posts/*.md`.",
  "2. Render a list page sorted by date and one page per post.",
  "3. Add an RSS feed.",
  "\x7b\x7b#if has_search_feature\x7d\x7d",
  "4. Add a small client-side search over titles and tags.",
  "\x7b\x7b/if\x7d\x7d",
  "",
  "---",
  "*Generated by promptgen v\x7b\x7btool_version\x7d\x7d on \x7b\x7bcurrent_date\x7d\x7d.*"]

/-! ### Personal sites -/

def portfolioMainPrompt : String := ofLines [
  "# Portfolio Development Expert",
  "",
  "You are guiding the development of **\x7b\x7bproject_name\x7d\x7d**, a personal portfolio site.",
  "",
  "## Project Overview",
  "",
  "**Project type**: \x7b\x7bproject_type\x7d\x7d",
  "**Complexity**: \x7b\x7bcomplexity_level\x7d\x7d",
  "**Detected features**: " ++ featureLoop,
  "**Tech stack**: \x7b\x7btech_stack\x7d\x7d",
  "",
  "## Sections",
  "",
  "1. Hero with a one-sentence positioning statement",
  "2. Selected work with case studies",
  "3. About and experience timeline",
  "4. Contact form with spam protection",
  "",
  "\x7b\x7bbase_content\x7d\x7d",
  "",
  "---",
  "*Generated by promptgen v\x7b\x7btool_version\x7d\x7d on \x7b\x7bcurrent_date\x7d\x7d.*"]

def portfolioCreativeFocused : String := ofLines [
  "# Creative Portfolio: \x7b\x7bproject_name\x7d\x7d",
  "",
  "Let the work lead. Every page should load fast and feel deliberate.",
  "",
  "**Features**: " ++ featureLoop,
  "**Stack**: \x7b\x7btech_stack\x7d\x7d",
  "",
  "- Full-bleed project imagery with art-directed crops per breakpoint.",
  "- Motion that respects `prefers-reduced-motion`.",
  "- Case studies structured as problem, process, outcome.",
  "\x7b\x7b#if has_upload_feature\x7d\x7d",
  "- A private upload area for adding new work without redeploying.",
  "\x7b\x7b/if\x7d\x7d",
  "",
  "---",
  "*Generated by promptgen v\x7b\x7btool_version\x7d\x7d on \x7b\x7bcurrent_date\x7d\x7d.*"]

/-! ### Dashboards -/

def dashboardMainPrompt : String := ofLines [
  "# Dashboard Development Expert",
  "",
  "You are guiding the development of **\x7b\x7bproject_name\x7d\x7d**, an admin and " ++
    "analytics dashboard.",
  "",
  "## Project Overview",
  "",
  "**Project type**: \x7b\x7bproject_type\x7d\x7d",
  "**Complexity**: \x7b\x7bcomplexity_level\x7d\x7d",
  "**Detected features**: " ++ featureLoop,
  "**Tech stack**: \x7b\x7btech_stack\x7d\x7d",
  "",
  "## Core Modules",
  "",
  "1. Layout with sidebar navigation and breadcrumbs",
  "2. Data tables with server-side pagination, sorting and filtering",
  "3. Charts for key metrics with date-range selection",
  "4. Role-based access to each section",
  "",
  "\x7b\x7b#if has_realtime_feature\x7d\x7d",
  "## Live Data",
  "",
  "Push updates over WebSockets or server-sent events and batch re-renders.",
  "\x7b\x7b/if\x7d\x7d",
  "",
  "\x7b\x7bbase_content\x7d\x7d",
  "",
  "---",
  "*Generated by promptgen v\x7b\x7btool_version\x7d\x7d on \x7b\x7bcurrent_date\x7d\x7d.*"]

def dashboardAnalyticsFocused : String := ofLines [
  "# Analytics Dashboard: \x7b\x7bproject_name\x7d\x7d",
  "",
  "**Features**: " ++ featureLoop,
  "**Stack**: \x7b\x7btech_stack\x7d\x7d",
  "",
  "## Metrics First",
  "",
  "- Define each KPI once, in SQL or a metrics layer, and reuse it everywhere.",
  "- Pre-aggregate daily rollups; query raw events only for drill-downs.",
  "",
  "## Visualisation",
  "",
  "- Line charts for trends, bar charts for comparisons, tables for detail.",
  "- Always show the date range and the last refresh time.",
  "\x7b\x7b#if has_analytics_feature\x7d\x7d",
  "- Add cohort and funnel views once the core KPIs are trusted.",
  "\x7b\x7b/if\x7d\x7d",
  "",
  "---",
  "*Generated by promptgen v\x7b\x7btool_version\x7d\x7d on \x7b\x7bcurrent_date\x7d\x7d.*"]

/-- Every bundled body under its path. -/
def all : List (String × String) := [
  ("base/core.md", baseCore),
  ("base/best-practices.md", baseBestPractices),
  ("base/tech-stack-guide.md", baseTechStackGuide),
  ("ecommerce/main-prompt.md", ecommerceMainPrompt),
  ("ecommerce/beginner-guide.md", ecommerceBeginnerGuide),
  ("ecommerce/architecture-focused.md", ecommerceArchitectureFocused),
  ("ecommerce/best-practices.md", ecommerceBestPractices),
  ("saas/main-prompt.md", saasMainPrompt),
  ("saas/mvp-focused.md", saasMvpFocused),
  ("saas/enterprise-grade.md", saasEnterpriseGrade),
  ("blog/main-prompt.md", blogMainPrompt),
  ("blog/simple-blog.md", blogSimpleBlog),
  ("portfolio/main-prompt.md", portfolioMainPrompt),
  ("portfolio/creative-focused.md", portfolioCreativeFocused),
  ("dashboard/main-prompt.md", dashboardMainPrompt),
  ("dashboard/analytics-focused.md", dashboardAnalyticsFocused)]

end Promptsmith.Bodies
