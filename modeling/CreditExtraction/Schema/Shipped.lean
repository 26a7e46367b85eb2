/-!
# The shipped registry

The registry the service ships with: one document type, `credit_request`, a credit request of
a company, with the fields a lender asks for and the German labels they carry on forms.
-/

namespace CreditExtraction

/-- Where the shipped registry lives in the source tree. -/
def shippedRegistryPath : String := "/src/configs/document_types.yaml"

/-- The text of the shipped registry file, line by line. -/
def shippedRegistryLines : List String := [
  "# Document type registry. Loaded once at startup; a label bound to two",
  "# canonical fields aborts the load.",
  "document_types:",
  "  - name: credit_request",
  "    description: Kreditantrag eines Unternehmens",
  "    fields:",
  "      - name: company_name",
  "        description: The legal name of the company requesting credit",
  "        aliases: [Firmenname, Name des Unternehmens, Unternehmen, Antragsteller]",
  "        rule:",
  "          type: string",
  "      - name: legal_form",
  "        description: Legal form of the company (GmbH, AG, KG, ...)",
  "        aliases: [Rechtsform]",
  "        rule:",
  "          type: string",
  "      - name: vat_id",
  "        description: The VAT identification number of the company",
  "        aliases: [USt-IdNr., USt-IdNr, Umsatzsteuer-ID, Umsatzsteuer-Identifikationsnummer]",
  "        rule:",
  "          type: string",
  "          pattern: '^[A-Z]\x7b2\x7d[0-9A-Z]\x7b8,12\x7d$'",
  "          description: VAT ID must start with 2 letters followed by 8-12 alphanumeric characters",
  "      - name: registration_number",
  "        description: Commercial register number",
  "        aliases: [Handelsregisternummer, HRB, Registernummer]",
  "      - name: founding_date",
  "        description: Date the company was founded",
  "        aliases: [Gründungsdatum, Gruendungsdatum]",
  "        rule:",
  "          type: date",
  "      - name: address",
  "        description: Registered business address",
  "        aliases: [Anschrift, Adresse, Firmensitz]",
  "      - name: website",
  "        description: Company website",
  "        aliases: [Webseite, Internetseite, Homepage]",
  "      - name: contact_person",
  "        description: Person to contact about the request",
  "        aliases: [Ansprechpartner, Kontaktperson]",
  "      - name: email",
  "        description: Contact e-mail address",
  "        aliases: [E-Mail, Email]",
  "        rule:",
  "          type: string",
  "          pattern: '^[^@\\s]+@[^@\\s]+\\.[^@\\s]+$'",
  "      - name: phone",
  "        description: Contact phone number",
  "        aliases: [Telefon, Telefonnummer, Tel.]",
  "      - name: credit_amount",
  "        description: The requested credit amount in EUR",
  "        aliases: [Kreditbetrag, Darlehensbetrag, Kreditsumme, beantragter Betrag]",
  "        rule:",
  "          type: number",
  "          min: 0",
  "          description: Credit amount must be a positive number",
  "      - name: purpose",
  "        description: The purpose of the credit request",
  "        aliases: [Verwendungszweck, Zweck]",
  "      - name: term_months",
  "        description: Requested term in months",
  "        aliases: [Laufzeit, Laufzeit in Monaten]",
  "        rule:",
  "          type: number",
  "          min: 1",
  "          max: 480",
  "      - name: annual_revenue",
  "        description: Revenue of the last financial year in EUR",
  "        aliases: [Jahresumsatz, Umsatz]",
  "        rule:",
  "          type: number",
  "          min: 0",
  "      - name: employees",
  "        description: Number of employees",
  "        aliases: [Mitarbeiterzahl, Anzahl Mitarbeiter, Mitarbeiter]",
  "        rule:",
  "          type: number",
  "          min: 0",
  "      - name: collateral_available",
  "        description: Whether collateral is offered",
  "        aliases: [Sicherheiten vorhanden, Sicherheiten]",
  "        rule:",
  "          type: boolean",
  "      - name: request_date",
  "        description: The date when the credit was requested",
  "        aliases: [Antragsdatum, Datum]",
  "        rule:",
  "          type: date",
  ""]

/-- The text of the shipped registry file. -/
def shippedRegistryText : String := "\n".intercalate shippedRegistryLines

end CreditExtraction
